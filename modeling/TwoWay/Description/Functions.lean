import TwoWay.Repetition.Accumulator
import TwoWay.Value

/-!
# Functions on values

The functions that a description can name: what a value is mapped or converted to, how values are
collected, and how a collection is taken apart.
-/

namespace TwoWay

/-! ## Mappings -/

/-- The mappings of one direction. -/
inductive Mapping where
  | length
  | first
  | second
  deriving DecidableEq, Repr

/-- What a value is mapped to. The length of a text is its number of bytes, that of a list its
number of elements. -/
def Mapping.apply : Mapping → Value → Value
  | .length, .text text => .int (Utf8.encode text).length
  | .length, .bytes bytes => .int bytes.length
  | .length, value => .int value.toList.length
  | .first, value => value.toPair.1
  | .second, value => value.toPair.2

/-! ## Conversions -/

/-- The conversions of both directions. -/
inductive Conversion where
  | swap
  | negate
  | triple
  | constant (value : Value)
  | hide (value : Value)

namespace Conversion

/-- Exchanges the sides of a pair. -/
def swapSides (value : Value) : Value := .pair value.toPair.2 value.toPair.1

/-- What a value that was read is converted to. -/
def apply : Conversion → Value → Value
  | swap, value => swapSides value
  | negate, value => .int (-value.toInt)
  | triple, value => .list [value.toPair.1.toPair.1, value.toPair.1.toPair.2, value.toPair.2]
  | constant result, _ => result
  | hide _, _ => .unit

/-- What a value that is to be written is converted from. -/
def unapply : Conversion → Value → Value
  | swap, value => swapSides value
  | negate, value => .int (-value.toInt)
  | triple, value =>
    match value.toList with
    | [a, b, c] => .pair (.pair a b) c
    | _ => .unit
  | constant _, _ => .unit
  | hide hidden, _ => hidden

end Conversion

/-! ## Collections -/

/-- The ways to collect values. -/
inductive Folding where
  | sum
  | count
  | last
  | reversed
  | concatenated
  | set
  | runs
  deriving DecidableEq, Repr

namespace Folding

/-- The collection of no values. -/
def initial : Folding → Value
  | sum | count => .int 0
  | last => .nothing
  | reversed | concatenated | set | runs => .list []

/-- The collection with one more value. -/
def add : Folding → Value → Value → Value
  | sum, total, value => .int (total.toInt + value.toInt)
  | count, total, _ => .int (total.toInt + 1)
  | last, _, value => .just value
  | reversed, values, value => .list (value :: values.toList)
  | concatenated, values, value => .list (values.toList ++ value.toList)
  | set, members, value =>
    .list ((insertAscending (members.toList.map Value.toInt) value.toInt).map Value.int)
  | runs, soFar, value => .list ((addToRuns (soFar.toList.map Value.toRun) value).map Value.ofRun)

end Folding

/-- The ways to take a collection apart. -/
inductive Decomposition where
  | elements
  | reversed
  | single
  | optional
  | units
  | runs
  | chunks
  deriving DecidableEq, Repr

/-- Cuts a list into pieces of two; the last may be shorter. -/
def chunksOfTwo {α : Type} : List α → List (List α)
  | [] => []
  | [a] => [[a]]
  | a :: b :: rest => [a, b] :: chunksOfTwo rest

/-- The values that a collection is written as. -/
def Decomposition.parts : Decomposition → Value → List Value
  | .elements, value => value.toList
  | .reversed, value => value.toList.reverse
  | .single, value => [value]
  | .optional, value => value.toOption.toList
  | .units, value => List.replicate value.toInt.toNat .unit
  | .runs, value => expandRuns (value.toList.map Value.toRun)
  | .chunks, value => (chunksOfTwo value.toList).map Value.list

/-- Collects values in a list. -/
def Accumulator.values : Accumulator Value Value :=
  ⟨.list [], fun values value => .list (values.toList ++ [value]), Value.toList⟩

end TwoWay
