import Mathlib.Logic.Relation
import TwoWay.Proofs.Reading.Repetition

/-!
# Repetitions end

The loop of a repetition has no count that runs down: there may be no greatest number, and the
element and the separator may both be read as nothing. It ends because of the test after each turn,
which only asks whether as many bytes are left as before. What makes that enough is that readings
move forward, so a turn that passes the test leaves fewer bytes.

Here the loop is a relation between stages, with the test as it stands, so that a run which never
ends is not excluded by the way it is written.

* `Repetition.Turn`: a turn that the loop completes, from one stage to the next.
* `Repetition.Ends`: the ways the loop ends at a stage, with the elements it accepted by then.
* `Repetition.Turn.size_lt`: a turn leaves fewer bytes.
* `Repetition.Reaches.length_add_size_le`: so there are no more turns than bytes.
* `Repetition.exists_ends`: every run of the loop gets to an end.
-/

namespace TwoWay

/-- Where the loop of a repetition stands between two turns: the values that were accepted, where
the last of their elements ended, and where the next one starts. -/
structure Stage (v : View) (α : Type) where
  values : List α
  mark : v.Text
  pos : v.Text

namespace Repetition

variable {v : View} {α ρ : Type}

/-- The stage before the first turn. -/
def firstStage (start : v.Text) : Stage v α := ⟨[], start, start⟩

/-- A turn of the loop: there is room for one more, the element and the separator are read, and not
as many bytes are left as before. -/
inductive Turn (r : Repetition v α ρ) : Stage v α → Stage v α → Prop
  | intro {s : Stage v α} {a : α} {next after : v.Text}
      (hRoom : r.bounds.hasRoom s.values.length = true)
      (hElement : r.element.parse s.pos = .done a next)
      (hSeparator : r.separator.parse next = .done () after)
      (hMoved : v.size after ≠ v.size s.pos) : Turn r s ⟨s.values ++ [a], next, after⟩

/-- The ends of the loop at a stage, with the values that were accepted and the outcome. -/
inductive Ends (r : Repetition v α ρ) (start : v.Text) (s : Stage v α) :
    List α → Outcome v.Text ρ → Prop
  | full (hFull : ¬ r.bounds.hasRoom s.values.length = true) :
      Ends r start s s.values
        (settle r.bounds start s.values.length (r.acc.collect s.values) s.mark)
  | elementFailed {failure : Failure} {left : v.Text}
      (hRoom : r.bounds.hasRoom s.values.length = true)
      (hElement : r.element.parse s.pos = .failed failure left) :
      Ends r start s s.values
        (settle r.bounds start s.values.length (r.acc.collect s.values) s.mark)
  | elementAborted {fault : Fault} (hRoom : r.bounds.hasRoom s.values.length = true)
      (hElement : r.element.parse s.pos = .aborted fault) :
      Ends r start s s.values (.aborted fault)
  | separatorFailed {a : α} {next left : v.Text} {failure : Failure}
      (hRoom : r.bounds.hasRoom s.values.length = true)
      (hElement : r.element.parse s.pos = .done a next)
      (hSeparator : r.separator.parse next = .failed failure left) :
      Ends r start s (s.values ++ [a])
        (settle r.bounds start (s.values ++ [a]).length (r.acc.collect (s.values ++ [a])) next)
  | separatorAborted {a : α} {next : v.Text} {fault : Fault}
      (hRoom : r.bounds.hasRoom s.values.length = true)
      (hElement : r.element.parse s.pos = .done a next)
      (hSeparator : r.separator.parse next = .aborted fault) :
      Ends r start s (s.values ++ [a]) (.aborted fault)
  | stoodStill {a : α} {next after : v.Text}
      (hRoom : r.bounds.hasRoom s.values.length = true)
      (hElement : r.element.parse s.pos = .done a next)
      (hSeparator : r.separator.parse next = .done () after)
      (hSame : v.size after = v.size s.pos) :
      Ends r start s (s.values ++ [a]) (.aborted .noProgress)

/-- A stage that the loop gets to from a start in some number of turns. -/
def Reaches (r : Repetition v α ρ) (start : v.Text) : Stage v α → Prop :=
  Relation.ReflTransGen r.Turn (firstStage start)

/-- What the loop comes to when it goes on from a stage. -/
def resume (r : Repetition v α ρ) (start : v.Text) (s : Stage v α) : Outcome v.Text ρ :=
  readMore v.size r.element.parse r.separator.parse r.bounds r.acc.add start s.values.length
    (r.acc.collect s.values) s.mark s.pos

variable {r : Repetition v α ρ} {start : v.Text} {s s' : Stage v α} {values : List α}
  {outcome : Outcome v.Text ρ}

/-! ## One turn -/

/-- The element and the separator only move forward, so a turn that does not leave as many bytes
leaves fewer. -/
theorem Turn.size_lt (h : r.Turn s s') : v.size s'.pos < v.size s.pos := by
  cases h with
  | intro hRoom hElement hSeparator hMoved =>
    have hNext := r.element.advances_parse _ _ _ hElement
    have hAfter := r.separator.advances_parse _ _ _ hSeparator
    have hLe := View.size_le_of_suffix (hAfter.trans hNext)
    exact Nat.lt_of_le_of_ne hLe hMoved

theorem Turn.length_eq (h : r.Turn s s') : s'.values.length = s.values.length + 1 := by
  cases h with
  | intro hRoom hElement hSeparator hMoved => simp

theorem Turn.resume_eq (h : r.Turn s s') : r.resume start s = r.resume start s' := by
  have hLess := h.size_lt
  cases h with
  | intro hRoom hElement hSeparator hMoved =>
    rw [resume, readMore_of_round hRoom hElement hSeparator hLess, resume,
      ← r.acc.collect_concat, List.length_append, List.length_singleton]

/-- At every stage the loop takes a turn or ends. -/
theorem turn_or_ends (r : Repetition v α ρ) (start : v.Text) (s : Stage v α) :
    (∃ s', r.Turn s s') ∨ ∃ values outcome, r.Ends start s values outcome := by
  by_cases hRoom : r.bounds.hasRoom s.values.length = true
  · cases hElement : r.element.parse s.pos with
    | aborted fault => exact Or.inr ⟨_, _, .elementAborted hRoom hElement⟩
    | failed failure left => exact Or.inr ⟨_, _, .elementFailed hRoom hElement⟩
    | done a next =>
      cases hSeparator : r.separator.parse next with
      | aborted fault => exact Or.inr ⟨_, _, .separatorAborted hRoom hElement hSeparator⟩
      | failed failure left => exact Or.inr ⟨_, _, .separatorFailed hRoom hElement hSeparator⟩
      | done _ after =>
        by_cases hSame : v.size after = v.size s.pos
        · exact Or.inr ⟨_, _, .stoodStill hRoom hElement hSeparator hSame⟩
        · exact Or.inl ⟨_, .intro hRoom hElement hSeparator hSame⟩
  · exact Or.inr ⟨_, _, .full hRoom⟩

/-! ## Ends -/

theorem Ends.resume_eq (h : r.Ends start s values outcome) : r.resume start s = outcome := by
  cases h with
  | full hFull => exact readMore_of_full hFull
  | elementFailed hRoom hElement => exact readMore_of_failed hElement
  | elementAborted hRoom hElement => exact readMore_of_aborted hRoom hElement
  | separatorFailed hRoom hElement hSeparator =>
    rw [resume, readMore_of_separator_failed hRoom hElement hSeparator, ← r.acc.collect_concat,
      List.length_append, List.length_singleton]
  | separatorAborted hRoom hElement hSeparator =>
    exact readMore_of_separator_aborted hRoom hElement hSeparator
  | stoodStill hRoom hElement hSeparator hSame =>
    exact readMore_of_stall hRoom hElement hSeparator (Nat.not_lt_of_le (Nat.le_of_eq hSame.symm))

/-- At most one element is accepted after the last turn. -/
theorem Ends.length_le (h : r.Ends start s values outcome) :
    values.length ≤ s.values.length + 1 := by
  cases h <;> simp

/-! ## Runs -/

theorem Reaches.resume_eq (h : r.Reaches start s) : r.resume start s = r.grammar.parse start := by
  induction h with
  | refl => rfl
  | tail turns turn ih => rw [← turn.resume_eq, ih]

/-- Each turn accepts one element and takes at least one byte. -/
theorem Reaches.length_add_size_le (h : r.Reaches start s) :
    s.values.length + v.size s.pos ≤ v.size start := by
  induction h with
  | refl => simp [firstStage]
  | tail turns turn ih =>
    have hLength := turn.length_eq
    have hLess := turn.size_lt
    omega

/-- From every stage the loop gets to an end. The bytes that are left run down. -/
theorem exists_ends (r : Repetition v α ρ) (start : v.Text) (s : Stage v α) :
    ∃ s' values, Relation.ReflTransGen r.Turn s s' ∧
      r.Ends start s' values (r.resume start s) := by
  induction hSize : v.size s.pos using Nat.strongRecOn generalizing s with
  | ind n ih =>
    subst hSize
    rcases r.turn_or_ends start s with ⟨s₁, hTurn⟩ | ⟨values, outcome, hEnds⟩
    · obtain ⟨s', values, hTurns, hEnds⟩ := ih _ hTurn.size_lt s₁ rfl
      rw [← hTurn.resume_eq] at hEnds
      exact ⟨s', values, .head hTurn hTurns, hEnds⟩
    · rw [hEnds.resume_eq]
      exact ⟨s, values, .refl, hEnds⟩

/-- Where the element and the separator are always read, only the greatest number or a turn that
stands still ends the loop. -/
theorem Ends.eq_noProgress (h : r.Ends start s values outcome)
    (hElement : ∀ text, ∃ a rest, r.element.parse text = .done a rest)
    (hSeparator : ∀ text, ∃ rest, r.separator.parse text = .done () rest)
    (hRoom : r.bounds.hasRoom s.values.length = true) : outcome = .aborted .noProgress := by
  cases h with
  | full hFull => exact absurd hRoom hFull
  | elementFailed hRoom' hFailed =>
    obtain ⟨a, rest, hDone⟩ := hElement s.pos
    simp [hDone] at hFailed
  | elementAborted hRoom' hAborted =>
    obtain ⟨a, rest, hDone⟩ := hElement s.pos
    simp [hDone] at hAborted
  | @separatorFailed a next left failure hRoom' hDone hFailed =>
    obtain ⟨rest, hRead⟩ := hSeparator next
    simp [hRead] at hFailed
  | @separatorAborted a next fault hRoom' hDone hAborted =>
    obtain ⟨rest, hRead⟩ := hSeparator next
    simp [hRead] at hAborted
  | stoodStill hRoom' hDone hRead hSame => rfl

/-! ## Repetitions -/

/-- **A repetition ends.**  Each turn of its loop leaves fewer bytes than there were. So a run of
the loop gets to an end, and every end it gets to is the outcome of the repetition, with at most one
element more accepted than the text has bytes. If the element and the separator can be read
everywhere and there is room for more elements than bytes, that end is the report of a turn that
stood still. -/
theorem loop_ends (r : Repetition v α ρ) (start : v.Text) :
    (∀ s s', r.Turn s s' → v.size s'.pos < v.size s.pos) ∧
    (∃ s values, r.Reaches start s ∧ r.Ends start s values (r.grammar.parse start)) ∧
    (∀ s values outcome, r.Reaches start s → r.Ends start s values outcome →
      outcome = r.grammar.parse start ∧ values.length ≤ v.size start + 1) ∧
    ((∀ text, ∃ a rest, r.element.parse text = .done a rest) →
      (∀ text, ∃ rest, r.separator.parse text = .done () rest) →
      r.bounds.hasRoom (v.size start) = true →
      r.grammar.parse start = .aborted .noProgress) := by
  have hExists : ∃ s values, r.Reaches start s ∧ r.Ends start s values (r.grammar.parse start) :=
    r.exists_ends start (firstStage start)
  refine ⟨fun s s' h => h.size_lt, hExists, fun s values outcome hReaches hEnds => ⟨?_, ?_⟩,
    fun hElement hSeparator hRoom => ?_⟩
  · rw [← hEnds.resume_eq, hReaches.resume_eq]
  · have hTurns := hReaches.length_add_size_le
    have hLast := hEnds.length_le
    omega
  · obtain ⟨s, values, hReaches, hEnds⟩ := hExists
    have hTurns := hReaches.length_add_size_le
    refine hEnds.eq_noProgress hElement hSeparator ?_
    rw [← Bounds.isWithin_succ] at hRoom ⊢
    exact Bounds.isWithin_mono (by omega) hRoom

/-- Any token or none, over and over: of one character, two elements are accepted. -/
theorem loop_ends_optional :
    let r : Repetition .chars (Option Char) (List (Option Char)) := ofElement (.optional .token)
    r.Turn (firstStage ['a']) ⟨[some 'a'], [], []⟩ ∧
      View.chars.size [] < View.chars.size ['a'] ∧
      r.Ends ['a'] ⟨[some 'a'], [], []⟩ [some 'a', none] (.aborted .noProgress) ∧
      [some 'a', none].length ≤ View.chars.size ['a'] + 1 ∧
      (∀ text, ∃ a rest, r.element.parse text = .done a rest) ∧
      (∀ text, ∃ rest, r.separator.parse text = .done () rest) ∧
      r.grammar.parse ['a'] = .aborted .noProgress := by
  intro r
  have hMoved : View.chars.size [] ≠ View.chars.size ['a'] := by decide
  have hTurn : r.Turn (firstStage ['a']) ⟨[] ++ [some 'a'], [], []⟩ := .intro rfl rfl rfl hMoved
  have hEnds : r.Ends ['a'] ⟨[some 'a'], [], []⟩ ([some 'a'] ++ [none]) (.aborted .noProgress) :=
    .stoodStill rfl rfl rfl rfl
  have hElement (text : List Char) : ∃ a rest, r.element.parse text = .done a rest := by
    cases text with
    | nil => exact ⟨none, [], rfl⟩
    | cons c text => exact ⟨some c, text, rfl⟩
  have hSeparator (text : List Char) : ∃ rest, r.separator.parse text = .done () rest :=
    ⟨text, rfl⟩
  obtain ⟨hLess, -, hOutcome, hStill⟩ := loop_ends r ['a']
  exact ⟨hTurn, hLess _ _ hTurn, hEnds, (hOutcome _ _ _ (.single hTurn) hEnds).2, hElement,
    hSeparator, hStill hElement hSeparator rfl⟩

end Repetition

end TwoWay
