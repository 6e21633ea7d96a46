/-!
# Outcomes of a step

A step starts in a state, which is the text left to read or the buffer written so far, and is done
with a value, fails, or is given up. A failure is an ordinary answer that the steps around it deal
with, so the state is kept; a fault ends the whole run.

* `Step.map`, `Step.orElse`, `Step.attempt`, `Step.andThen`: the ways to build a step from others.
* `Step.andThen_eq_done_iff`: a sequence is done exactly when both its steps are.
-/

namespace TwoWay

/-- The two ordinary failures. They tell nothing else, because the steps around them only need to
know that there was one. -/
inductive Failure where
  | parse
  | print
  deriving DecidableEq, Repr

/-- The text that reports a failure. -/
def Failure.message : Failure → String
  | .parse => "failed to parse input"
  | .print => "failed to print output"

/-- What ends a run: a repetition whose element and separator consumed nothing, a question for a
digit of a radix that has no digits, or a position that is not a later one of the same text. -/
inductive Fault where
  | noProgress
  | radix
  | position
  deriving DecidableEq, Repr

/-- What a step from a state of type `σ` comes to. -/
inductive Outcome (σ α : Type) where
  | done (value : α) (state : σ)
  | failed (failure : Failure) (state : σ)
  | aborted (fault : Fault)
  deriving DecidableEq, Repr

namespace Outcome

variable {σ τ α β : Type}

/-- Changes the value. -/
def map (f : α → β) : Outcome σ α → Outcome σ β
  | .done a s => .done (f a) s
  | .failed e s => .failed e s
  | .aborted fault => .aborted fault

/-- Changes the state. -/
def mapState (f : σ → τ) : Outcome σ α → Outcome τ α
  | .done a s => .done a (f s)
  | .failed e s => .failed e (f s)
  | .aborted fault => .aborted fault

@[simp]
theorem map_id (o : Outcome σ α) : o.map id = o := by cases o <;> rfl

theorem mapState_mapState {υ : Type} (f : σ → τ) (g : τ → υ) (o : Outcome σ α) :
    (o.mapState f).mapState g = o.mapState (g ∘ f) := by cases o <;> rfl

theorem map_eq_done_iff {f : α → β} {o : Outcome σ α} {b : β} {s : σ} :
    o.map f = .done b s ↔ ∃ a, o = .done a s ∧ f a = b := by
  cases o <;> simp [map, and_assoc, and_comm]

theorem map_eq_failed_iff {f : α → β} {o : Outcome σ α} {failure : Failure} {s : σ} :
    o.map f = .failed failure s ↔ o = .failed failure s := by
  cases o <;> simp [map]

theorem map_eq_aborted_iff {f : α → β} {o : Outcome σ α} {fault : Fault} :
    o.map f = .aborted fault ↔ o = .aborted fault := by
  cases o <;> simp [map]

theorem mapState_eq_done_iff {f : σ → τ} {o : Outcome σ α} {a : α} {t : τ} :
    o.mapState f = .done a t ↔ ∃ s, o = .done a s ∧ f s = t := by
  cases o <;> simp [mapState, and_assoc]

theorem mapState_eq_failed_iff {f : σ → τ} {o : Outcome σ α} {failure : Failure} {t : τ} :
    o.mapState f = .failed failure t ↔ ∃ s, o = .failed failure s ∧ f s = t := by
  cases o <;> simp [mapState, and_assoc]

theorem mapState_eq_aborted_iff {f : σ → τ} {o : Outcome σ α} {fault : Fault} :
    o.mapState f = .aborted fault ↔ o = .aborted fault := by
  cases o <;> simp [mapState]

end Outcome

/-- A step from a state to an outcome. -/
abbrev Step (σ α : Type) := σ → Outcome σ α

namespace Step

variable {σ α β : Type}

/-- Is done at once. -/
def pure (a : α) : Step σ α := fun s => .done a s

/-- Fails at once. -/
def fail (failure : Failure) : Step σ α := fun s => .failed failure s

/-- Changes the value of a step. -/
def map (f : α → β) (p : Step σ α) : Step σ β := fun s => (p s).map f

/-- Does one step or, if that fails, another from where the first one left off. -/
def orElse (p q : Step σ α) : Step σ α := fun s =>
  match p s with
  | .failed _ s' => q s'
  | outcome => outcome

/-- Does a step that may fail: its value is then `none`. -/
def attempt (p : Step σ α) : Step σ (Option α) := fun s =>
  match p s with
  | .done a s' => .done (some a) s'
  | .failed _ s' => .done none s'
  | .aborted fault => .aborted fault

/-- Does one step and then another. When the second one fails, `undo` makes the state to go back to
from the state at the start and the one the second step left. -/
def andThen (undo : σ → σ → σ) (p : Step σ α) (q : Step σ β) : Step σ (α × β) := fun s =>
  match p s with
  | .done a s₁ =>
    match q s₁ with
    | .done b s₂ => .done (a, b) s₂
    | .failed failure s₂ => .failed failure (undo s s₂)
    | .aborted fault => .aborted fault
  | .failed failure s₁ => .failed failure s₁
  | .aborted fault => .aborted fault

theorem andThen_eq_done_iff {undo : σ → σ → σ} {p : Step σ α} {q : Step σ β} {s s₂ : σ} {a : α}
    {b : β} :
    andThen undo p q s = .done (a, b) s₂ ↔ ∃ s₁, p s = .done a s₁ ∧ q s₁ = .done b s₂ := by
  constructor
  · intro h
    unfold andThen at h
    split at h
    · rename_i a' s₁ hp
      split at h
      · rename_i b' s₂' hq
        cases h
        exact ⟨s₁, hp, hq⟩
      · cases h
      · cases h
    · cases h
    · cases h
  · rintro ⟨s₁, hp, hq⟩
    simp [andThen, hp, hq]

theorem andThen_eq_failed_iff {undo : σ → σ → σ} {p : Step σ α} {q : Step σ β} {s s' : σ}
    {failure : Failure} :
    andThen undo p q s = .failed failure s' ↔
      p s = .failed failure s' ∨
        ∃ a s₁ s₂, p s = .done a s₁ ∧ q s₁ = .failed failure s₂ ∧ undo s s₂ = s' := by
  unfold andThen
  cases hp : p s with
  | done a s₁ => cases hq : q s₁ <;> simp [and_assoc, hq]
  | failed e s₁ => simp
  | aborted fault => simp

theorem andThen_eq_aborted_iff {undo : σ → σ → σ} {p : Step σ α} {q : Step σ β} {s : σ}
    {fault : Fault} :
    andThen undo p q s = .aborted fault ↔
      p s = .aborted fault ∨ ∃ a s₁, p s = .done a s₁ ∧ q s₁ = .aborted fault := by
  unfold andThen
  cases hp : p s with
  | done a s₁ => cases hq : q s₁ <;> simp [and_assoc, hq]
  | failed e s₁ => simp
  | aborted fault => simp

theorem orElse_eq_done_iff {p q : Step σ α} {s s' : σ} {a : α} :
    orElse p q s = .done a s' ↔
      p s = .done a s' ∨ ∃ failure s₁, p s = .failed failure s₁ ∧ q s₁ = .done a s' := by
  unfold orElse
  cases hp : p s <;> simp [and_assoc]

theorem orElse_eq_failed_iff {p q : Step σ α} {s s' : σ} {failure : Failure} :
    orElse p q s = .failed failure s' ↔
      ∃ first s₁, p s = .failed first s₁ ∧ q s₁ = .failed failure s' := by
  unfold orElse
  cases hp : p s <;> simp [and_assoc]

theorem orElse_eq_aborted_iff {p q : Step σ α} {s : σ} {fault : Fault} :
    orElse p q s = .aborted fault ↔
      p s = .aborted fault ∨ ∃ failure s₁, p s = .failed failure s₁ ∧ q s₁ = .aborted fault := by
  unfold orElse
  cases hp : p s <;> simp [and_assoc]

theorem attempt_eq_done_iff {p : Step σ α} {s s' : σ} {found : Option α} :
    attempt p s = .done found s' ↔
      (∃ a, p s = .done a s' ∧ some a = found) ∨
        ∃ failure, p s = .failed failure s' ∧ none = found := by
  unfold attempt
  cases hp : p s <;> simp [and_assoc, and_comm]

/-- An attempt deals with the failure of its step. -/
theorem attempt_ne_failed {p : Step σ α} {s s' : σ} {failure : Failure} :
    attempt p s ≠ .failed failure s' := by
  unfold attempt
  cases hp : p s <;> simp

theorem attempt_eq_aborted_iff {p : Step σ α} {s : σ} {fault : Fault} :
    attempt p s = .aborted fault ↔ p s = .aborted fault := by
  unfold attempt
  cases hp : p s <;> simp

end Step

end TwoWay
