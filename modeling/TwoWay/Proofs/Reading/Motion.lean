import TwoWay.Proofs.Reading.Rollback

/-!
# How a step moves

A step that is done leaves a state that is related to the one it started in: an end of the text it
was given, or an end that begins at a boundary. Every way to build a step keeps such a relation if
it is reflexive and transitive, and a repetition keeps it along its chain.

* `Step.MovesBy`: a step that, whenever it is done, moves by a relation.
* `Step.MovesBy.andThen`, `Step.MovesBy.orElse`, ...: every way to build a step keeps this.
* `Chain.movesBy`, `Chain.Stops.movesBy`: so does a chain, and a repetition with it.
-/

namespace TwoWay

/-- Whenever the step is done, what it leaves is related to what it started with. -/
def Step.MovesBy {σ α : Type} (R : σ → σ → Prop) (p : Step σ α) : Prop :=
  ∀ s a rest, p s = .done a rest → R rest s

section Steps

variable {σ α β ρ : Type} {R : σ → σ → Prop} {failure : Failure}

open Step (MovesBy Restores)

theorem Step.movesBy_pure (hRefl : ∀ s, R s s) (a : α) : MovesBy R (Step.pure a : Step σ α) := by
  intro s found rest h
  cases h
  exact hRefl s

namespace Step.MovesBy

theorem map {p : Step σ α} (hp : MovesBy R p) (f : α → β) : MovesBy R (Step.map f p) := by
  intro s b rest h
  obtain ⟨a, hDone, -⟩ := Outcome.map_eq_done_iff.1 h
  exact hp s a rest hDone

theorem andThen (hTrans : ∀ {s t u}, R s t → R t u → R s u) {undo : σ → σ → σ} {p : Step σ α}
    {q : Step σ β} (hp : MovesBy R p) (hq : MovesBy R q) : MovesBy R (Step.andThen undo p q) := by
  rintro s ⟨a, b⟩ rest h
  obtain ⟨s₁, hFirst, hSecond⟩ := andThen_eq_done_iff.1 h
  exact hTrans (hq s₁ b rest hSecond) (hp s a s₁ hFirst)

theorem orElse {p q : Step σ α} (hp : MovesBy R p) (hq : MovesBy R q)
    (hRestores : Restores failure p) : MovesBy R (Step.orElse p q) := by
  intro s a rest h
  rcases orElse_eq_done_iff.1 h with hFirst | ⟨first, s₁, hFirst, hSecond⟩
  · exact hp s a rest hFirst
  · obtain ⟨-, rfl⟩ := hRestores s first s₁ hFirst
    exact hq s₁ a rest hSecond

theorem attempt (hRefl : ∀ s, R s s) {p : Step σ α} (hp : MovesBy R p)
    (hRestores : Restores failure p) : MovesBy R (Step.attempt p) := by
  intro s found rest h
  rcases attempt_eq_done_iff.1 h with ⟨a, hDone, -⟩ | ⟨first, hFailed, -⟩
  · exact hp s a rest hDone
  · obtain ⟨-, rfl⟩ := hRestores s first rest hFailed
    exact hRefl _

end Step.MovesBy

/-! ## Repetitions -/

variable {element : Step σ α} {separator : Step σ Unit} {bounds : Bounds} {start : σ}
  (hRefl : ∀ s, R s s) (hTrans : ∀ {s t u}, R s t → R t u → R s u)
include hRefl hTrans

theorem Chain.movesBy (hElement : MovesBy R element) (hSeparator : MovesBy R separator)
    {values : List α} {mark pos : σ} (h : Chain element separator start values mark pos) :
    R mark start ∧ R pos start := by
  induction h with
  | start => exact ⟨hRefl start, hRefl start⟩
  | round prior hDone hSeparated ih =>
    have hNext := hTrans (hElement _ _ _ hDone) ih.2
    exact ⟨hNext, hTrans (hSeparator _ _ _ hSeparated) hNext⟩

theorem Chain.Stops.movesBy (hElement : MovesBy R element) (hSeparator : MovesBy R separator)
    {values : List α} {mark : σ} (h : Chain.Stops element separator bounds start values mark) :
    R mark start := by
  cases h with
  | full chain hFull => exact (chain.movesBy hRefl hTrans hElement hSeparator).1
  | element chain hRoom hFailed => exact (chain.movesBy hRefl hTrans hElement hSeparator).1
  | separator chain hRoom hDone hFailed =>
    exact hTrans (hElement _ _ _ hDone) (chain.movesBy hRefl hTrans hElement hSeparator).2

theorem Step.MovesBy.readMany (hElement : MovesBy R element) (hSeparator : MovesBy R separator)
    (size : σ → Nat) (bounds : Bounds) (acc : Accumulator α ρ) :
    MovesBy R (readMany size element separator bounds acc) := by
  intro s value rest h
  obtain ⟨-, values, hStops, -⟩ := readMany_eq_done_iff.1 h
  exact hStops.movesBy hRefl hTrans hElement hSeparator

end Steps

end TwoWay
