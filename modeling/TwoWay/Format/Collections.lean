import TwoWay.Grammar.Repetition

/-!
# Collected formats

Two formats whose values are not the elements that were read: run lengths of bytes, and sets of
integers with commas between them.
-/

namespace TwoWay.Format

/-- Bytes, at least one, as runs of equal ones. -/
def runLengths : Grammar .bytes (List (UInt8 × Nat)) :=
  .many .token (.always ()) (.orMore 1) .runs

/-- Integers of a type with commas between them, as an ascending list without repetitions. -/
def intSet (type : IntType) : Grammar .chars (List Int) :=
  .many (.number (.int type) rfl) (.literal [',']) .unbounded .ascending

end TwoWay.Format
