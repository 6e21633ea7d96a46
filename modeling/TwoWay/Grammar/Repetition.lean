import TwoWay.Grammar

/-!
# Building repetitions

A repetition starts as one of any number of elements with nothing between them, collected in a
list. Settings change it one after the other. A new way to collect starts without a way to take the
collection apart, so the repetition then writes nothing until one is set.

* `Repetition.set?`: makes one setting. Only a bound can be refused.
* `Settings.apply?`: makes settings in order, up to the first that is refused.
-/

namespace TwoWay

/-- The parts of a repetition. -/
structure Repetition (v : View) (α ρ : Type) where
  element : Grammar v α
  separator : Grammar v Unit
  bounds : Bounds
  acc : Accumulator α ρ

/-- A setting of a repetition that collects values of type `ρ`, after which it collects values of
type `τ`. -/
inductive Setting (v : View) (α : Type) : Type → Type → Type 1 where
  | bound {ρ : Type} (change : Bounds.Change) : Setting v α ρ ρ
  | separatedBy {ρ : Type} (separator : Grammar v Unit) : Setting v α ρ ρ
  | fold {ρ τ : Type} (initial : τ) (add : τ → α → τ) : Setting v α ρ τ
  | decompose {ρ : Type} (parts : ρ → List α) : Setting v α ρ ρ

/-- Settings made one after the other. -/
inductive Settings (v : View) (α : Type) : Type → Type → Type 1 where
  | nil {ρ : Type} : Settings v α ρ ρ
  | cons {ρ τ υ : Type} (setting : Setting v α ρ τ) (more : Settings v α τ υ) : Settings v α ρ υ

namespace Repetition

variable {v : View} {α ρ τ : Type}

/-- Any number of elements with nothing between them, in a list. -/
def ofElement (element : Grammar v α) : Repetition v α (List α) :=
  ⟨element, .always (), .unbounded, .list⟩

/-- The repetition as a grammar. -/
def grammar (repetition : Repetition v α ρ) : Grammar v ρ :=
  .many repetition.element repetition.separator repetition.bounds repetition.acc

/-- Makes one setting. -/
def set? (repetition : Repetition v α ρ) :
    Setting v α ρ τ → Except BoundsConflict (Repetition v α τ)
  | .bound change =>
    match repetition.bounds.change? change with
    | .ok bounds => .ok { repetition with bounds := bounds }
    | .error conflict => .error conflict
  | .separatedBy separator => .ok { repetition with separator := separator }
  | .fold initial add =>
    .ok ⟨repetition.element, repetition.separator, repetition.bounds, .fold initial add⟩
  | .decompose parts => .ok { repetition with acc := repetition.acc.decompose parts }

end Repetition

/-- Makes settings in order. -/
def Settings.apply? {v : View} {α ρ τ : Type} :
    Settings v α ρ τ → Repetition v α ρ → Except BoundsConflict (Repetition v α τ)
  | .nil, repetition => .ok repetition
  | .cons setting more, repetition =>
    match repetition.set? setting with
    | .ok changed => more.apply? changed
    | .error conflict => .error conflict

end TwoWay
