import TwoWay.Leaf.Run
import TwoWay.Number.IntType

/-!
# Numbers

An optional minus sign and the longest run of decimal digits are read as a value. Only a numeral is
written, whatever the form says the text of a value is.

* `NumberForm.int`: the numbers of an integer type.
* `NumberForm.raw`: the text itself, which may then even be empty when it is read.
-/

namespace TwoWay

variable {v : View} {α : Type}

/-- How values are named by texts: which value a text names, and the text of a value. -/
structure NumberForm (α : Type) where
  read? : List Char → Option α
  write? : α → Option (List Char)

namespace NumberForm

/-- The numbers of an integer type. -/
def int (type : IntType) : NumberForm Int := ⟨type.ofNumeral?, type.numeral?⟩

/-- Texts that name themselves. -/
def raw : NumberForm (List Char) := ⟨some, some⟩

end NumberForm

/-- The test for a minus sign. -/
def isMinus (v : View) : Test v := Test.ofPred fun token => v.character? token == some '-'

/-- The test for a decimal digit. -/
def isDecimalDigit (v : View) : Test v :=
  Test.ofPred fun token => (v.character? token).any Char.isDigit

/-- Reads an optional minus sign and the digits after it. -/
def takeNumeral (v : View) : Step v.Text (List Char) :=
  (Step.andThen v.restart (takeRun (isMinus v) (some 1)) (takeRun (isDecimalDigit v) none)).map
    fun (sign, digits) => (sign ++ digits).filterMap v.character?

/-- Reads a number. -/
def readNumber (v : View) (form : NumberForm α) : Step v.Text α := fun text =>
  match takeNumeral v text with
  | .done numeral rest =>
    match form.read? numeral with
    | some value => .done value rest
    | none => .failed .parse text
  | .failed _ _ => .failed .parse text
  | .aborted fault => .aborted fault

/-- Writes a number. -/
def writeNumber (v : View) (form : NumberForm α) (value : α) : Step v.Text Unit := fun buffer =>
  match form.write? value with
  | some numeral =>
    if isNumeral numeral then append (v.spell numeral) buffer else .failed .print buffer
  | none => .failed .print buffer

end TwoWay
