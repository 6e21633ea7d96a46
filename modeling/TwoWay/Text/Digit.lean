/-!
# Digits

Digits of a radix up to 36 are the ASCII digits and then the ASCII letters in either case.
-/

namespace TwoWay.Text

/-- The greatest radix that has digits. -/
def greatestRadix : Nat := 36

/-- What a digit is worth: `0` to `9` for the ASCII digits, `10` to `35` for the ASCII letters. -/
def digitValue? (c : Char) : Option Nat :=
  if '0' ≤ c ∧ c ≤ '9' then some (c.toNat - '0'.toNat)
  else if 'a' ≤ c ∧ c ≤ 'z' then some (c.toNat - 'a'.toNat + 10)
  else if 'A' ≤ c ∧ c ≤ 'Z' then some (c.toNat - 'A'.toNat + 10)
  else none

/-- Whether a character is a digit of a radix. -/
def isDigitOf (radix : Nat) (c : Char) : Bool := (digitValue? c).any (· < radix)

end TwoWay.Text
