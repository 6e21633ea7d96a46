import TwoWay.Json

/-!
# Reading JSON

JSON texts as the standard has them. Strings may escape characters outside the basic plane by pairs
of surrogates, and may not hold half a pair or a bare control character.

* `Json.readWithin?`: the JSON that a whole text spells, with a limit to how deep it is nested.
* `Json.read?`: the same without a limit.
-/

namespace TwoWay.Json

/-- Drops white space. -/
def skipSpace (text : List Char) : List Char :=
  text.dropWhile fun c => c == ' ' || c == '\n' || c == '\t' || c == '\r'

/-! ## Strings -/

/-- The value of a hexadecimal digit. -/
def hexValue? (c : Char) : Option Nat :=
  if '0' ≤ c ∧ c ≤ '9' then some (c.toNat - '0'.toNat)
  else if 'a' ≤ c ∧ c ≤ 'f' then some (c.toNat - 'a'.toNat + 10)
  else if 'A' ≤ c ∧ c ≤ 'F' then some (c.toNat - 'A'.toNat + 10)
  else none

/-- The value of four hexadecimal digits. -/
def codeUnit? (a b c d : Char) : Option Nat := do
  let a ← hexValue? a
  let b ← hexValue? b
  let c ← hexValue? c
  let d ← hexValue? d
  return ((a * 16 + b) * 16 + c) * 16 + d

/-- Whether a code unit is the first half of a pair of surrogates. -/
def isLeadingSurrogate (n : Nat) : Bool := 0xD800 ≤ n && n < 0xDC00

/-- Whether a code unit is the second half of a pair of surrogates. -/
def isTrailingSurrogate (n : Nat) : Bool := 0xDC00 ≤ n && n < 0xE000

/-- The character of a pair of surrogates. -/
def ofSurrogates (leading trailing : Nat) : Char :=
  Char.ofNat (0x10000 + (leading - 0xD800) * 0x400 + (trailing - 0xDC00))

/-- The character that a letter after a backslash stands for. -/
def unescape? : Char → Option Char
  | '"' => some '"'
  | '\\' => some '\\'
  | '/' => some '/'
  | 'b' => some '\x08'
  | 'f' => some '\x0c'
  | 'n' => some '\n'
  | 'r' => some '\r'
  | 't' => some '\t'
  | _ => none

/-- Puts a character before those of a string. -/
def consChar (c : Char) (read : List Char × List Char) : List Char × List Char :=
  (c :: read.1, read.2)

/-- Reads a string after its opening quote, and leaves what follows its closing one. -/
def readString? : List Char → Option (List Char × List Char)
  | [] => none
  | '"' :: text => some ([], text)
  | '\\' :: 'u' :: a :: b :: c :: d :: '\\' :: 'u' :: e :: f :: g :: h :: text => do
    let first ← codeUnit? a b c d
    if isLeadingSurrogate first then
      let second ← codeUnit? e f g h
      if isTrailingSurrogate second then
        (readString? text).map (consChar (ofSurrogates first second))
      else none
    else if isTrailingSurrogate first then none
    else
      (readString? ('\\' :: 'u' :: e :: f :: g :: h :: text)).map (consChar (Char.ofNat first))
  | '\\' :: 'u' :: a :: b :: c :: d :: text => do
    let unit ← codeUnit? a b c d
    if isLeadingSurrogate unit || isTrailingSurrogate unit then none
    else (readString? text).map (consChar (Char.ofNat unit))
  | '\\' :: c :: text => do
    let c ← unescape? c
    (readString? text).map (consChar c)
  | c :: text => if c.toNat < 0x20 then none else (readString? text).map (consChar c)

/-! ## Numbers -/

/-- Reads at least one digit. -/
def readDigits? (text : List Char) : Option (List Char × List Char) :=
  match text.takeWhile Char.isDigit with
  | [] => none
  | digits => some (digits, text.dropWhile Char.isDigit)

/-- Reads the digits before the point, which start with a zero only if that is all of them. -/
def readWhole? (text : List Char) : Option (List Char × List Char) := do
  let (digits, rest) ← readDigits? text
  if digits.head? == some '0' && 1 < digits.length then none else some (digits, rest)

/-- Reads the digits after a point, if there is a point. -/
def readFraction? : List Char → Option (List Char × List Char)
  | '.' :: text => readDigits? text
  | text => some ([], text)

/-- Reads a signed power of ten. -/
def readPower? : List Char → Option (Option Int × List Char)
  | '-' :: text => (readDigits? text).map fun (digits, rest) =>
    (some (-(Nat.ofDigitChars 10 digits 0 : Int)), rest)
  | '+' :: text => (readDigits? text).map fun (digits, rest) =>
    (some (Nat.ofDigitChars 10 digits 0 : Int), rest)
  | text => (readDigits? text).map fun (digits, rest) =>
    (some (Nat.ofDigitChars 10 digits 0 : Int), rest)

/-- Reads a power of ten, if there is one. -/
def readExponent? : List Char → Option (Option Int × List Char)
  | 'e' :: text | 'E' :: text => readPower? text
  | text => some (none, text)

/-- Reads a number without its sign. -/
def readUnsigned? (negative : Bool) (text : List Char) : Option (JsonNumber × List Char) := do
  let (whole, text) ← readWhole? text
  let (fraction, text) ← readFraction? text
  let (exponent, text) ← readExponent? text
  return (⟨negative, whole, fraction, exponent⟩, text)

/-- Reads a number. -/
def readNumber? : List Char → Option (JsonNumber × List Char)
  | '-' :: text => readUnsigned? true text
  | text => readUnsigned? false text

/-! ## Texts -/

mutual

/-- Reads a value that may hold arrays and objects nested `depth` deep. -/
def readValue? : (fuel depth : Nat) → List Char → Option (Json × List Char)
  | 0, _, _ => none
  | fuel + 1, depth, text =>
    match skipSpace text with
    | 'n' :: 'u' :: 'l' :: 'l' :: rest => some (.null, rest)
    | 't' :: 'r' :: 'u' :: 'e' :: rest => some (.bool true, rest)
    | 'f' :: 'a' :: 'l' :: 's' :: 'e' :: rest => some (.bool false, rest)
    | '"' :: rest =>
      (readString? rest).map fun (chars, rest) => (.string (String.ofList chars), rest)
    | '[' :: rest =>
      match depth, skipSpace rest with
      | 0, _ => none
      | _ + 1, ']' :: rest => some (.array [], rest)
      | depth + 1, rest =>
        (readItems? fuel depth rest).map fun (items, rest) => (.array items, rest)
    | '\x7b' :: rest =>
      match depth, skipSpace rest with
      | 0, _ => none
      | _ + 1, '\x7d' :: rest => some (.object [], rest)
      | depth + 1, rest =>
        (readFields? fuel depth rest).map fun (fields, rest) => (.object fields, rest)
    | rest => (readNumber? rest).map fun (spelled, rest) => (.number spelled, rest)

/-- Reads the items of an array and its end. -/
def readItems? : (fuel depth : Nat) → List Char → Option (List Json × List Char)
  | 0, _, _ => none
  | fuel + 1, depth, text => do
    let (item, rest) ← readValue? fuel depth text
    match skipSpace rest with
    | ']' :: rest => return ([item], rest)
    | ',' :: rest =>
      let (items, rest) ← readItems? fuel depth rest
      return (item :: items, rest)
    | _ => none

/-- Reads the fields of an object and its end. -/
def readFields? : (fuel depth : Nat) → List Char → Option (List (String × Json) × List Char)
  | 0, _, _ => none
  | fuel + 1, depth, text =>
    match skipSpace text with
    | '"' :: rest => do
      let (key, rest) ← readString? rest
      match skipSpace rest with
      | ':' :: rest =>
        let (value, rest) ← readValue? fuel depth rest
        match skipSpace rest with
        | '\x7d' :: rest => return ([(String.ofList key, value)], rest)
        | ',' :: rest =>
          let (fields, rest) ← readFields? fuel depth rest
          return ((String.ofList key, value) :: fields, rest)
        | _ => none
      | _ => none
    | _ => none

end

/-- The JSON that a whole text spells, if its arrays and objects are nested at most `depth` deep.
Every two rounds of reading take at least one character. -/
def readWithin? (depth : Nat) (text : String) : Option Json :=
  let chars := text.toList
  match readValue? (2 * chars.length + 2) depth chars with
  | some (json, rest) => if (skipSpace rest).isEmpty then some json else none
  | none => none

/-- The JSON that a whole text spells. A text is nested no deeper than it is long. -/
def read? (text : String) : Option Json := readWithin? text.length text

end TwoWay.Json
