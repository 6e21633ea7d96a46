import TwoWay.Grammar.Repetition

/-!
# Histories

A repetition is made call by call: it starts from its element, and each call makes a setting or goes
on with a copy. A run is made in the same way, and has no settings but its two bounds. A copy is put
together from copies of the parts.

* `History.make?`: the repetition that a history makes, if no setting is refused.
* `Run.callAll?`: the run that calls make, if none is refused.
-/

namespace TwoWay

/-! ## Copies -/

namespace Grammar

/-- A grammar put together from copies of its parts. -/
def copy : {v : View} → {α : Type} → Grammar v α → Grammar v α
  | _, _, always value => always value
  | _, _, finish => finish
  | _, _, token => token
  | _, _, literal text => literal text
  | _, _, lineEnd => lineEnd
  | _, _, run test bounds => run test bounds
  | _, _, number form h => number form h
  | _, _, identifier h => identifier h
  | _, _, pair first second => pair first.copy second.copy
  | _, _, skipThen first second => skipThen first.copy second.copy
  | _, _, thenSkip first second => thenSkip first.copy second.copy
  | _, _, orElse first second => orElse first.copy second.copy
  | _, _, optional grammar => optional grammar.copy
  | _, _, map f grammar => map f grammar.copy
  | _, _, convert apply unapply grammar => convert apply unapply grammar.copy
  | _, _, writtenBy reader writer => writtenBy reader.copy writer.copy
  | _, _, many element separator bounds acc => many element.copy separator.copy bounds acc
  | _, _, across bridge grammar => across bridge grammar.copy

theorem copy_eq {v : View} {α : Type} (g : Grammar v α) : g.copy = g := by
  induction g with
  | always | finish | token | literal | lineEnd | run | number | identifier => rfl
  | pair first second ih ih' | skipThen first second ih ih' | thenSkip first second ih ih'
  | orElse first second ih ih' | writtenBy first second ih ih' => rw [copy, ih, ih']
  | optional grammar ih | map f grammar ih | convert apply unapply grammar ih
  | across bridge grammar ih => rw [copy, ih]
  | many element separator bounds acc ih ih' => rw [copy, ih, ih']

end Grammar

section Repetitions

variable {v : View} {α ρ τ : Type}

/-- A repetition put together from copies of its parts. -/
def Repetition.copy (repetition : Repetition v α ρ) : Repetition v α ρ :=
  ⟨repetition.element.copy, repetition.separator.copy, repetition.bounds, repetition.acc⟩

theorem Repetition.copy_eq (repetition : Repetition v α ρ) : repetition.copy = repetition := by
  rw [copy, Grammar.copy_eq, Grammar.copy_eq]

/-! ## Repetitions -/

/-- How a repetition that collects values of type `ρ` was made, up to the last call. -/
inductive History (v : View) (α : Type) : Type → Type 1 where
  | start : History v α (List α)
  | set {ρ τ : Type} (before : History v α ρ) (setting : Setting v α ρ τ) : History v α τ
  | copy {ρ : Type} (before : History v α ρ) : History v α ρ

namespace History

/-- The repetition that a history makes of an element. -/
def make? (element : Grammar v α) :
    {ρ : Type} → History v α ρ → Except BoundsConflict (Repetition v α ρ)
  | _, start => .ok (.ofElement element)
  | _, set before setting =>
    match before.make? element with
    | .ok repetition => repetition.set? setting
    | .error conflict => .error conflict
  | _, copy before => (before.make? element).map Repetition.copy

end History

end Repetitions

/-! ## Runs -/

/-- The parts of a run. -/
structure Run (v : View) where
  test : Test v
  bounds : Bounds

/-- A call on a run. -/
inductive RunCall where
  | atLeast (count : Nat)
  | atMost (count : Nat)
  | copy
  deriving DecidableEq, Repr

namespace Run

variable {v : View}

/-- Any number of tokens that pass a test. -/
def ofTest (test : Test v) : Run v := ⟨test, .unbounded⟩

/-- The run as a grammar. -/
def grammar (run : Run v) : Grammar v v.Text := .run run.test run.bounds

/-- A run with the same parts. -/
def copy (run : Run v) : Run v := ⟨run.test, run.bounds⟩

/-- Makes one call. -/
def call? (run : Run v) : RunCall → Except BoundsConflict (Run v)
  | .atLeast count => (run.bounds.atLeast? count).map (Run.mk run.test)
  | .atMost count => (run.bounds.atMost? count).map (Run.mk run.test)
  | .copy => .ok run.copy

/-- Makes calls in order, up to the first that is refused. -/
def callAll? (run : Run v) (calls : List RunCall) : Except BoundsConflict (Run v) :=
  calls.foldlM call? run

end Run

end TwoWay
