import TwoWay.Json

/-!
# Writing JSON

JSON texts without white space. In strings only quotes, backslashes and control characters are
escaped, the latter by their letters where they have one.

* `Json.write`: the text.
-/

namespace TwoWay.Json

/-- A digit of a hexadecimal number. -/
def hexDigit (n : Nat) : Char := Nat.digitChar (n % 16)

/-- A character of a string. -/
def escape (c : Char) : List Char :=
  match c with
  | '"' => ['\\', '"']
  | '\\' => ['\\', '\\']
  | '\n' => ['\\', 'n']
  | '\r' => ['\\', 'r']
  | '\t' => ['\\', 't']
  | '\x08' => ['\\', 'b']
  | '\x0c' => ['\\', 'f']
  | c =>
    if c.toNat < 0x20 then ['\\', 'u', '0', '0', hexDigit (c.toNat / 16), hexDigit c.toNat]
    else [c]

/-- A string with its quotes. -/
def writeString (text : String) : List Char :=
  '"' :: text.toList.flatMap escape ++ ['"']

/-- A number as it is spelled. A power of ten always has its sign. -/
def writeNumber (number : JsonNumber) : List Char :=
  (if number.negative then ['-'] else []) ++ number.whole ++
    (if number.fraction.isEmpty then [] else '.' :: number.fraction) ++
    match number.exponent with
    | none => []
    | some exponent =>
      'e' :: (if exponent < 0 then '-' else '+') :: Nat.toDigits 10 exponent.natAbs

mutual

/-- The characters of a JSON text. -/
def writeChars : Json → List Char
  | null => "null".toList
  | bool true => "true".toList
  | bool false => "false".toList
  | number n => writeNumber n
  | string text => writeString text
  | array [] => ['[', ']']
  | array (item :: items) => '[' :: writeChars item ++ writeItems items
  | object [] => ['\x7b', '\x7d']
  | object ((key, value) :: fields) =>
    '\x7b' :: writeString key ++ ':' :: writeChars value ++ writeFields fields

/-- The items after the first, and the end of the array. -/
def writeItems : List Json → List Char
  | [] => [']']
  | item :: items => ',' :: writeChars item ++ writeItems items

/-- The fields after the first, and the end of the object. -/
def writeFields : List (String × Json) → List Char
  | [] => ['\x7d']
  | (key, value) :: fields =>
    ',' :: writeString key ++ ':' :: writeChars value ++ writeFields fields

end

/-- The JSON text. -/
def write (json : Json) : String := String.ofList (writeChars json)

end TwoWay.Json
