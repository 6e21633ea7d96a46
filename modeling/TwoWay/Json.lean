import TwoWay.Number.Double

/-!
# JSON

JSON texts as data. A number is kept as it is spelled, and objects keep the order and the
repetitions of their fields. The canonical form has the fields in ascending order of their keys, of
repeated ones the last, and each number spelled in the one way that its value has: integers of 64
bits exactly, all others as doubles.

* `Json.canonical?`: the canonical form, unless a number is too large.
* `insertField`: the order of the fields.
-/

namespace TwoWay

/-- A number as it is spelled: its sign, its digits before and after the point, and its power of
ten. -/
structure JsonNumber where
  negative : Bool
  whole : List Char
  fraction : List Char
  exponent : Option Int
  deriving DecidableEq, Repr

/-- JSON texts. -/
inductive Json where
  | null
  | bool (b : Bool)
  | number (number : JsonNumber)
  | string (text : String)
  | array (items : List Json)
  | object (fields : List (String × Json))
  deriving Inhabited

/-! ## Numbers -/

namespace JsonNumber

/-- The number of an integer. -/
def ofInt (n : Int) : JsonNumber := ⟨n < 0, Nat.toDigits 10 n.natAbs, [], none⟩

/-- The first integer that has more than 64 bits. -/
def wordLimit : Nat := 18446744073709551616

/-- Takes in digits after others as long as the value stays a word. Gives the value and the digits
that are left out. -/
def takeDigits : Nat → List Char → Nat × List Char
  | value, [] => (value, [])
  | value, c :: digits =>
    let next := value * 10 + (c.toNat - '0'.toNat)
    if next < wordLimit then takeDigits next digits else (value, c :: digits)

/-- The double that a spelling names, without its sign. Digits that do not fit in a word only count
as places. -/
def magnitude? (number : JsonNumber) : Option Float :=
  let (whole, dropped) := takeDigits 0 number.whole
  let (significand, ignored) := takeDigits whole number.fraction
  let places : Int := number.fraction.length - ignored.length
  Double.ofDecimal? significand (dropped.length - places + number.exponent.getD 0)

/-- The integer that a spelling names, if it is one of 64 bits with or without a sign. Zero with a
sign is a double. -/
def word? (number : JsonNumber) : Option Int :=
  if number.fraction.isEmpty && number.exponent.isNone then
    let value := Nat.ofDigitChars 10 number.whole 0
    if number.negative then
      if 0 < value && 2 * value ≤ wordLimit then some (-(value : Int)) else none
    else if value < wordLimit then some value else none
  else none

/-- How a positive double is laid out: with a point where that takes at most sixteen digits before
it or four zeros after it, and otherwise with a power of ten. -/
def layout (negative : Bool) (n : Nat) (power : Int) : JsonNumber :=
  let digits := Nat.toDigits 10 n
  let point := (digits.length : Int) + power
  if 0 ≤ power && point ≤ 16 then
    ⟨negative, digits ++ List.replicate power.toNat '0', ['0'], none⟩
  else if 0 < point && point ≤ 16 then
    ⟨negative, digits.take point.toNat, digits.drop point.toNat, none⟩
  else if -5 < point && point ≤ 0 then
    ⟨negative, ['0'], List.replicate (-point).toNat '0' ++ digits, none⟩
  else ⟨negative, digits.take 1, digits.drop 1, some (point - 1)⟩

/-- The one spelling of a value. -/
def canonical? (number : JsonNumber) : Option JsonNumber :=
  match number.word? with
  | some n => some (ofInt n)
  | none =>
    number.magnitude?.map fun x =>
      if x == 0 then ⟨number.negative, ['0'], ['0'], none⟩
      else
        let (n, power) := Double.shortest x
        layout number.negative n power

end JsonNumber

/-! ## Canonical form -/

namespace Json

/-- Puts a field in its place among ascending ones, instead of one with the same key. -/
def insertField (field : String × Json) : List (String × Json) → List (String × Json)
  | [] => [field]
  | first :: fields =>
    if field.1 < first.1 then field :: first :: fields
    else if field.1 = first.1 then field :: fields
    else first :: insertField field fields

/-- The fields in ascending order of their keys, of repeated ones the last. -/
def sortFields (fields : List (String × Json)) : List (String × Json) :=
  fields.foldl (fun sorted field => insertField field sorted) []

mutual

/-- The canonical form. -/
def canonical? : Json → Option Json
  | null => some null
  | bool b => some (bool b)
  | number n => n.canonical?.map number
  | string text => some (string text)
  | array items => (canonicalItems? items).map array
  | object fields => (canonicalFields? fields).map fun fields => object (sortFields fields)

/-- The canonical forms of items. -/
def canonicalItems? : List Json → Option (List Json)
  | [] => some []
  | item :: items => do
    let item ← canonical? item
    let items ← canonicalItems? items
    return item :: items

/-- The canonical forms of fields. -/
def canonicalFields? : List (String × Json) → Option (List (String × Json))
  | [] => some []
  | (key, value) :: fields => do
    let value ← canonical? value
    let fields ← canonicalFields? fields
    return (key, value) :: fields

end

end Json

end TwoWay
