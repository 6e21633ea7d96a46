import TwoWay.Grammar.Repetition

/-!
# Requests with headers

The request line and the header block of an HTTP request. A header has one value after the colon and
one more for each continuation line; a line that starts with a space or a tab continues the header
before it. White space before a value is written as one space, and line ends as line feeds.
-/

namespace TwoWay.Format

/-- The parts of a request line. -/
structure RequestLine where
  method : List UInt8
  uri : List UInt8
  version : List UInt8
  deriving DecidableEq, Repr

/-- A header with the values on its lines. -/
structure Header where
  name : List UInt8
  values : List (List UInt8)
  deriving DecidableEq, Repr

/-! ## Bytes -/

/-- The printable bytes that separate the parts of a header and so stand in no name. -/
def separators : List UInt8 := Utf8.encode "()<>@,;:\\'/[]?=\x7b\x7d ".toList

/-- Whether a byte may stand in a method or the name of a header. -/
def isNameByte (b : UInt8) : Bool := 0x20 ≤ b && b < 0x80 && !separators.contains b

/-- Whether a byte may stand in a URI. -/
def isUriByte (b : UInt8) : Bool := b != 0x20

/-- Whether a byte may stand in a version. -/
def isVersionByte (b : UInt8) : Bool := Text.isAsciiDigit b || b == 0x2E

/-- Whether a byte may stand in the value of a header. -/
def isValueByte (b : UInt8) : Bool := b != 0x0D && b != 0x0A

/-! ## Grammars -/

/-- Any number of bytes of a kind. -/
def bytesOf (accepts : UInt8 → Bool) : Grammar .bytes (List UInt8) :=
  .run (Test.ofPred accepts) .unbounded

/-- A fixed ASCII text. -/
def ascii (text : String) : Grammar .bytes Unit := .literal (Utf8.encode text.toList)

/-- The white space before a value. -/
def indentation : Grammar .bytes Unit :=
  .writtenBy
    (.run (Test.ofPred View.bytes.isInlineSpace) (.orMore 1))
    (ascii " ")

/-- The first line of a request. -/
def requestLine : Grammar .bytes RequestLine :=
  .convert (fun parts => ⟨parts.1.1, parts.1.2, parts.2⟩)
    (fun line => ((line.method, line.uri), line.version))
    (.thenSkip
      (.pair
        (.thenSkip (.pair (.thenSkip (bytesOf isNameByte) (ascii " ")) (bytesOf isUriByte))
          (ascii " HTTP/"))
        (bytesOf isVersionByte))
      .lineEnd)

/-- A value with the white space before it and its line end. -/
def headerValue : Grammar .bytes (List UInt8) :=
  .thenSkip (.skipThen indentation (bytesOf isValueByte)) .lineEnd

/-- A name and its values. -/
def header : Grammar .bytes Header :=
  .convert (fun parts => ⟨parts.1, parts.2⟩) (fun header => (header.name, header.values))
    (.pair (.thenSkip (bytesOf isNameByte) (ascii ":"))
      (Repetition.ofElement headerValue).grammar)

/-- A request line and the headers after it. -/
def request : Grammar .bytes (RequestLine × List Header) :=
  .pair requestLine (Repetition.ofElement header).grammar

end TwoWay.Format
