import TwoWay.Repetition.Read

/-!
# Steps in lockstep

Two steps whose states are of different kinds run in lockstep when, from related states, both are
done with related values, both fail with the same failure, or both are given up for the same fault,
and the states they leave are related again.

* `Outcome.Related`: outcomes of the same kind, with related values and states.
* `Step.Lockstep`: related states lead to related outcomes.
* `Step.Lockstep.andThen`, `Step.Lockstep.orElse`, ...: every way to build a step keeps this.
* `Step.Lockstep.readMany`: so does a repetition, if both sides agree on which states are smaller.
-/

namespace TwoWay

/-- Outcomes of the same kind, with related values and states. Failures and faults are the same. -/
inductive Outcome.Related {σ τ α β : Type} (R : σ → τ → Prop) (V : α → β → Prop) :
    Outcome σ α → Outcome τ β → Prop
  | done {a : α} {b : β} {s : σ} {t : τ} (hValue : V a b) (hState : R s t) :
      Related R V (.done a s) (.done b t)
  | failed {failure : Failure} {s : σ} {t : τ} (hState : R s t) :
      Related R V (.failed failure s) (.failed failure t)
  | aborted {fault : Fault} : Related R V (.aborted fault) (.aborted fault)

/-- From related states the steps come to related outcomes. -/
def Step.Lockstep {σ τ α β : Type} (R : σ → τ → Prop) (V : α → β → Prop) (p : Step σ α)
    (q : Step τ β) : Prop :=
  ∀ s t, R s t → (p s).Related R V (q t)

variable {σ τ α β γ δ ρ υ : Type} {R : σ → τ → Prop} {V : α → β → Prop} {W : γ → δ → Prop}

/-! ## Related outcomes -/

namespace Outcome.Related

variable {o : Outcome σ α} {o' : Outcome τ β}

theorem map (h : Related R V o o') {f : α → γ} {g : β → δ} (hf : ∀ a b, V a b → W (f a) (g b)) :
    Related R W (o.map f) (o'.map g) := by
  cases h with
  | done hValue hState => exact .done (hf _ _ hValue) hState
  | failed hState => exact .failed hState
  | aborted => exact .aborted

theorem of_done (h : Related R V o o') {a : α} {s : σ} (ho : o = .done a s) :
    ∃ b t, o' = .done b t ∧ V a b ∧ R s t := by
  subst ho
  cases h with
  | done hValue hState => exact ⟨_, _, rfl, hValue, hState⟩

theorem of_failed (h : Related R V o o') {failure : Failure} {s : σ} (ho : o = .failed failure s) :
    ∃ t, o' = .failed failure t ∧ R s t := by
  subst ho
  cases h with
  | failed hState => exact ⟨_, rfl, hState⟩

theorem of_aborted (h : Related R V o o') {fault : Fault} (ho : o = .aborted fault) :
    o' = .aborted fault := by
  subst ho
  cases h with
  | aborted => rfl

/-- Two outcomes that one outcome is related to are the same, up to the function that relates their
values, if its states are each related to one state only. -/
theorem map_eq {o₁ : Outcome τ α} {f : α → β} (h₁ : Related R Eq o o₁) (h : Related R V o o')
    (hState : ∀ s t t', R s t → R s t' → t = t') (hValue : ∀ a b, V a b → f a = b) :
    o₁.map f = o' := by
  cases h₁ with
  | done hEq hState₁ =>
    cases h with
    | done hab hState₂ =>
      subst hEq
      rw [Outcome.map, hValue _ _ hab, hState _ _ _ hState₁ hState₂]
  | failed hState₁ =>
    cases h with
    | failed hState₂ => rw [Outcome.map, hState _ _ _ hState₁ hState₂]
  | aborted =>
    cases h with
    | aborted => rfl

end Outcome.Related

/-! ## Steps -/

namespace Step.Lockstep

variable {p : Step σ α} {q : Step τ β}

theorem pure {a : α} {b : β} (h : V a b) :
    Lockstep R V (Step.pure a : Step σ α) (Step.pure b : Step τ β) :=
  fun _ _ hState => .done h hState

theorem map (h : Lockstep R V p q) {f : α → γ} {g : β → δ} (hf : ∀ a b, V a b → W (f a) (g b)) :
    Lockstep R W (Step.map f p) (Step.map g q) :=
  fun s t hState => (h s t hState).map hf

theorem andThen {p' : Step σ γ} {q' : Step τ δ} {undo : σ → σ → σ} {undo' : τ → τ → τ}
    {X : α × γ → β × δ → Prop} (h : Lockstep R V p q) (h' : Lockstep R W p' q')
    (hUndo : ∀ s t s₂ t₂, R s t → R s₂ t₂ → R (undo s s₂) (undo' t t₂))
    (hPair : ∀ a b c d, V a b → W c d → X (a, c) (b, d)) :
    Lockstep R X (Step.andThen undo p p') (Step.andThen undo' q q') := by
  intro s t hState
  unfold Step.andThen
  have hFirst := h s t hState
  generalize p s = o, q t = o' at hFirst ⊢
  cases hFirst with
  | @done a b s₁ t₁ hValue hState₁ =>
    have hSecond := h' s₁ t₁ hState₁
    simp only
    generalize p' s₁ = o, q' t₁ = o' at hSecond ⊢
    cases hSecond with
    | done hValue' hState₂ => exact .done (hPair _ _ _ _ hValue hValue') hState₂
    | failed hState₂ => exact .failed (hUndo _ _ _ _ hState hState₂)
    | aborted => exact .aborted
  | failed hState₁ => exact .failed hState₁
  | aborted => exact .aborted

theorem orElse {p' : Step σ α} {q' : Step τ β} (h : Lockstep R V p q) (h' : Lockstep R V p' q') :
    Lockstep R V (Step.orElse p p') (Step.orElse q q') := by
  intro s t hState
  unfold Step.orElse
  have hFirst := h s t hState
  generalize p s = o, q t = o' at hFirst ⊢
  cases hFirst with
  | done hValue hState₁ => exact .done hValue hState₁
  | failed hState₁ => exact h' _ _ hState₁
  | aborted => exact .aborted

theorem attempt {X : Option α → Option β → Prop} (h : Lockstep R V p q) (hNone : X none none)
    (hSome : ∀ a b, V a b → X (some a) (some b)) :
    Lockstep R X (Step.attempt p) (Step.attempt q) := by
  intro s t hState
  unfold Step.attempt
  have hTry := h s t hState
  generalize p s = o, q t = o' at hTry ⊢
  cases hTry with
  | done hValue hState₁ => exact .done (hSome _ _ hValue) hState₁
  | failed hState₁ => exact .done hNone hState₁
  | aborted => exact .aborted

end Step.Lockstep

/-! ## Repetitions -/

section Repetitions

open Step (Lockstep)

variable {element : Step σ α} {element' : Step τ β} {separator : Step σ Unit}
  {separator' : Step τ Unit} {size : σ → Nat} {size' : τ → Nat} {bounds : Bounds}
  {F : ρ → υ → Prop} {U : Unit → Unit → Prop}

theorem settle_related {start mark : σ} {start' mark' : τ} {value : ρ} {value' : υ} {count : Nat}
    (hStart : R start start') (hValue : F value value') (hMark : R mark mark') :
    (settle bounds start count value mark).Related R F
      (settle bounds start' count value' mark') := by
  unfold settle
  split
  · exact .done hValue hMark
  · exact .failed hStart

/-- Both loops make the same rounds, because they agree on which rounds leave less. -/
theorem readMore_related {add : ρ → α → ρ} {add' : υ → β → υ}
    (hElement : Lockstep R V element element')
    (hSeparator : Lockstep R U separator separator')
    (hSize : ∀ s t s₂ t₂, R s t → R s₂ t₂ → (size s₂ < size s ↔ size' t₂ < size' t))
    (hAdd : ∀ value value' a b, F value value' → V a b → F (add value a) (add' value' b))
    {start : σ} {start' : τ} (hStart : R start start') {count : Nat} {value : ρ} {mark pos : σ} :
    ∀ {value' : υ} {mark' pos' : τ}, F value value' → R mark mark' → R pos pos' →
      (readMore size element separator bounds add start count value mark pos).Related R F
        (readMore size' element' separator' bounds add' start' count value' mark' pos') := by
  fun_induction readMore size element separator bounds add start count value mark pos with
  | case1 count value mark pos hRoom fault hFault =>
    intro value' mark' pos' hValue hMark hPos
    rw [readMore_of_aborted hRoom ((hElement pos pos' hPos).of_aborted hFault)]
    exact .aborted
  | case2 count value mark pos hRoom failure left hFailed =>
    intro value' mark' pos' hValue hMark hPos
    obtain ⟨left', hFailed', -⟩ := (hElement pos pos' hPos).of_failed hFailed
    rw [readMore_of_failed hFailed']
    exact settle_related hStart hValue hMark
  | case3 count value mark pos hRoom a next hDone fault hFault =>
    intro value' mark' pos' hValue hMark hPos
    obtain ⟨b, next', hDone', -, hNext⟩ := (hElement pos pos' hPos).of_done hDone
    have hFault' := (hSeparator next next' hNext).of_aborted hFault
    rw [readMore_of_separator_aborted hRoom hDone' hFault']
    exact .aborted
  | case4 count value mark pos hRoom a next hDone failure left hFailed =>
    intro value' mark' pos' hValue hMark hPos
    obtain ⟨b, next', hDone', hab, hNext⟩ := (hElement pos pos' hPos).of_done hDone
    obtain ⟨left', hFailed', -⟩ := (hSeparator next next' hNext).of_failed hFailed
    rw [readMore_of_separator_failed hRoom hDone' hFailed']
    exact settle_related hStart (hAdd value value' a b hValue hab) hNext
  | case5 count value mark pos hRoom a next hDone _ after hSeparated hLess ih =>
    intro value' mark' pos' hValue hMark hPos
    obtain ⟨b, next', hDone', hab, hNext⟩ := (hElement pos pos' hPos).of_done hDone
    obtain ⟨_, after', hSeparated', -, hAfter⟩ := (hSeparator next next' hNext).of_done hSeparated
    have hLess' := (hSize pos pos' after after' hPos hAfter).1 hLess
    rw [readMore_of_round hRoom hDone' hSeparated' hLess']
    exact ih (hAdd value value' a b hValue hab) hNext hAfter
  | case6 count value mark pos hRoom a next hDone _ after hSeparated hNotLess =>
    intro value' mark' pos' hValue hMark hPos
    obtain ⟨b, next', hDone', -, hNext⟩ := (hElement pos pos' hPos).of_done hDone
    obtain ⟨_, after', hSeparated', -, hAfter⟩ := (hSeparator next next' hNext).of_done hSeparated
    have hNotLess' := (not_congr (hSize pos pos' after after' hPos hAfter)).1 hNotLess
    rw [readMore_of_stall hRoom hDone' hSeparated' hNotLess']
    exact .aborted
  | case7 count value mark pos hFull =>
    intro value' mark' pos' hValue hMark hPos
    rw [readMore_of_full hFull]
    exact settle_related hStart hValue hMark

theorem Step.Lockstep.readMany {acc : Accumulator α ρ} {acc' : Accumulator β υ}
    (hElement : Lockstep R V element element')
    (hSeparator : Lockstep R U separator separator')
    (hSize : ∀ s t s₂ t₂, R s t → R s₂ t₂ → (size s₂ < size s ↔ size' t₂ < size' t))
    (hInitial : F acc.initial acc'.initial)
    (hAdd : ∀ value value' a b, F value value' → V a b → F (acc.add value a) (acc'.add value' b)) :
    Lockstep R F (readMany size element separator bounds acc)
      (TwoWay.readMany size' element' separator' bounds acc') :=
  fun _ _ hStart =>
    readMore_related hElement hSeparator hSize hAdd hStart hInitial hStart hStart

end Repetitions

end TwoWay
