import TwoWay.Text.Identifier.Start
import TwoWay.Text.Identifier.Continue

/-!
# Identifier characters

An identifier is one character that may start it and any number that may continue it. Scalars
follow the properties XID_Start and XID_Continue of Unicode 17.0, and an underscore may start an
identifier too; bytes know ASCII letters, digits and the underscore.
-/

namespace TwoWay.Text

/-- Whether a scalar may start an identifier. -/
def isIdentStart (c : Char) : Bool := identStart.contains c.toNat || c == '_'

/-- Whether a scalar may stand in an identifier after its first. -/
def isIdentContinue (c : Char) : Bool :=
  identStart.contains c.toNat || identContinueOnly.contains c.toNat

/-- Whether a byte is an ASCII letter. -/
def isAsciiLetter (b : UInt8) : Bool := (0x41 ≤ b && b ≤ 0x5A) || (0x61 ≤ b && b ≤ 0x7A)

/-- Whether a byte is an ASCII digit. -/
def isAsciiDigit (b : UInt8) : Bool := 0x30 ≤ b && b ≤ 0x39

/-- Whether a byte may start an identifier. -/
def isAsciiIdentStart (b : UInt8) : Bool := isAsciiLetter b || b == 0x5F

/-- Whether a byte may stand in an identifier after its first. -/
def isAsciiIdentContinue (b : UInt8) : Bool := isAsciiLetter b || isAsciiDigit b || b == 0x5F

end TwoWay.Text
