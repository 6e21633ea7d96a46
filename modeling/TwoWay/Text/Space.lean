/-!
# White space

Scalars follow the property White_Space of Unicode 17.0, bytes follow ASCII. White space that does
not end a line is called inline.
-/

namespace TwoWay.Text

/-- Whether a scalar has the property White_Space. -/
def isSpace (c : Char) : Bool :=
  let n := c.toNat
  (0x09 ≤ n && n ≤ 0x0D) || n == 0x20 || n == 0x85 || n == 0xA0 || n == 0x1680 ||
    (0x2000 ≤ n && n ≤ 0x200A) || n == 0x2028 || n == 0x2029 || n == 0x202F || n == 0x205F ||
    n == 0x3000

/-- Whether a scalar ends a line: line feed, carriage return, vertical tab, form feed, next line,
line separator, paragraph separator. -/
def endsLine (c : Char) : Bool :=
  let n := c.toNat
  (0x0A ≤ n && n ≤ 0x0D) || n == 0x85 || n == 0x2028 || n == 0x2029

/-- Whether a scalar is white space inside a line. -/
def isInlineSpace (c : Char) : Bool := isSpace c && !endsLine c

/-- Whether a byte is ASCII white space: space, tab, line feed, form feed or carriage return. -/
def isAsciiSpace (b : UInt8) : Bool :=
  b == 0x20 || b == 0x09 || b == 0x0A || b == 0x0C || b == 0x0D

/-- Whether a byte is a space or a tab. -/
def isAsciiInlineSpace (b : UInt8) : Bool := b == 0x20 || b == 0x09

end TwoWay.Text
