/-!
# Integer types

The integers of a width, signed or not, and the unsigned ones without zero. A numeral is an optional
minus sign and decimal digits; it names a value of a type when the value is in range and the type
takes the sign.

* `decimal_isNumeral`: the decimal form of an integer is a numeral.
* `IntType.ofNumeral?`, `IntType.numeral?`: the value that a numeral names, and back.
-/

namespace TwoWay

/-! ## Numerals -/

/-- The digits of a numeral, without its sign. -/
def numeralDigits : List Char → List Char
  | '-' :: digits => digits
  | digits => digits

/-- Whether a text is an optional minus sign and at least one decimal digit. -/
def isNumeral (text : List Char) : Bool :=
  !(numeralDigits text).isEmpty && (numeralDigits text).all Char.isDigit

/-- The value of decimal digits. -/
def digitsValue (digits : List Char) : Nat := Nat.ofDigitChars 10 digits 0

/-- The value of a numeral. -/
def numeralValue : List Char → Int
  | '-' :: digits => -(digitsValue digits : Int)
  | digits => (digitsValue digits : Int)

/-- The shortest numeral of an integer. -/
def decimal : Int → List Char
  | .ofNat n => Nat.toDigits 10 n
  | .negSucc n => '-' :: Nat.toDigits 10 (n + 1)

theorem numeralDigits_of_digits {digits : List Char} (h : ∀ c ∈ digits, c.isDigit = true) :
    numeralDigits digits = digits := by
  unfold numeralDigits
  split
  · have := h '-' List.mem_cons_self
    cases this
  · rfl

theorem numeralValue_of_digits {digits : List Char} (h : ∀ c ∈ digits, c.isDigit = true) :
    numeralValue digits = digitsValue digits := by
  unfold numeralValue
  split
  · have := h '-' List.mem_cons_self
    cases this
  · rfl

theorem isDigit_of_mem_toDigits {n : Nat} : ∀ c ∈ Nat.toDigits 10 n, c.isDigit = true :=
  fun _ h => Nat.isDigit_of_mem_toDigits (by decide) (by decide) h

theorem digitsValue_toDigits (n : Nat) : digitsValue (Nat.toDigits 10 n) = n :=
  Nat.ofDigitChars_ten_toDigits

theorem decimal_isNumeral (n : Int) : isNumeral (decimal n) = true := by
  cases n with
  | ofNat n =>
    simp only [isNumeral, decimal, numeralDigits_of_digits isDigit_of_mem_toDigits,
      Bool.and_eq_true, Bool.not_eq_true', List.isEmpty_eq_false_iff, List.all_eq_true]
    exact ⟨Nat.toDigits_ne_nil, isDigit_of_mem_toDigits⟩
  | negSucc n =>
    simp only [isNumeral, decimal, numeralDigits, Bool.and_eq_true, Bool.not_eq_true',
      List.isEmpty_eq_false_iff, List.all_eq_true]
    exact ⟨Nat.toDigits_ne_nil, isDigit_of_mem_toDigits⟩

/-! ## Types -/

/-- The widths of integer types. -/
inductive Width where
  | w8
  | w16
  | w32
  | w64
  | w128
  deriving DecidableEq, Repr

/-- The number of values of a width: two to the power of its bits. -/
def Width.valueCount : Width → Nat
  | .w8 => 256
  | .w16 => 65536
  | .w32 => 4294967296
  | .w64 => 18446744073709551616
  | .w128 => 340282366920938463463374607431768211456

/-- The integer types: signed, unsigned, and unsigned without zero. -/
inductive IntType where
  | signed (width : Width)
  | unsigned (width : Width)
  | nonzero (width : Width)
  deriving DecidableEq, Repr

namespace IntType

/-- Whether the numerals of a type may have a minus sign. -/
def takesSign : IntType → Bool
  | .signed _ => true
  | .unsigned _ | .nonzero _ => false

/-- The least value of a type. -/
def least : IntType → Int
  | .signed width => -((width.valueCount / 2 : Nat) : Int)
  | .unsigned _ => 0
  | .nonzero _ => 1

/-- The greatest value of a type. -/
def greatest : IntType → Int
  | .signed width => ((width.valueCount / 2 : Nat) : Int) - 1
  | .unsigned width | .nonzero width => (width.valueCount : Int) - 1

/-- Whether an integer is a value of a type. -/
def contains (type : IntType) (n : Int) : Bool := type.least ≤ n && n ≤ type.greatest

/-- The value that a numeral names. -/
def ofNumeral? (type : IntType) (text : List Char) : Option Int :=
  if isNumeral text && (type.takesSign || text.head? != some '-') &&
      type.contains (numeralValue text) then
    some (numeralValue text)
  else none

/-- The numeral of a value. -/
def numeral? (type : IntType) (n : Int) : Option (List Char) :=
  if type.contains n then some (decimal n) else none

theorem contains_iff {type : IntType} {n : Int} :
    type.contains n = true ↔ type.least ≤ n ∧ n ≤ type.greatest := by
  simp [contains]

end IntType

end TwoWay
