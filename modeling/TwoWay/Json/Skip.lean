import TwoWay.Json.Read

/-!
# Passing over JSON

A value that does not count is passed over: it has to be spelled like JSON, but a string in it may
hold half a pair of surrogates, a number may be too large for a double, and there is no limit to
how deep it is nested.

* `Json.skipValue?`: passes over a value.
-/

namespace TwoWay.Json

/-- Passes over a string after its opening quote. Four hexadecimal digits may stand for any code
unit. -/
def skipString? : List Char → Option (List Char)
  | [] => none
  | '"' :: text => some text
  | '\\' :: 'u' :: a :: b :: c :: d :: text =>
    if (codeUnit? a b c d).isSome then skipString? text else none
  | '\\' :: c :: text => if (unescape? c).isSome then skipString? text else none
  | c :: text => if c.toNat < 0x20 then none else skipString? text

mutual

/-- Passes over a value. -/
def skipValue? : (fuel : Nat) → List Char → Option (List Char)
  | 0, _ => none
  | fuel + 1, text =>
    match skipSpace text with
    | 'n' :: 'u' :: 'l' :: 'l' :: rest => some rest
    | 't' :: 'r' :: 'u' :: 'e' :: rest => some rest
    | 'f' :: 'a' :: 'l' :: 's' :: 'e' :: rest => some rest
    | '"' :: rest => skipString? rest
    | '[' :: rest =>
      match skipSpace rest with
      | ']' :: rest => some rest
      | rest => skipItems? fuel rest
    | '\x7b' :: rest =>
      match skipSpace rest with
      | '\x7d' :: rest => some rest
      | rest => skipFields? fuel rest
    | rest => (readNumber? rest).map Prod.snd

/-- Passes over the items of an array and its end. -/
def skipItems? : (fuel : Nat) → List Char → Option (List Char)
  | 0, _ => none
  | fuel + 1, text => do
    let rest ← skipValue? fuel text
    match skipSpace rest with
    | ']' :: rest => return rest
    | ',' :: rest => skipItems? fuel rest
    | _ => none

/-- Passes over the fields of an object and its end. -/
def skipFields? : (fuel : Nat) → List Char → Option (List Char)
  | 0, _ => none
  | fuel + 1, text =>
    match skipSpace text with
    | '"' :: rest => do
      let rest ← skipString? rest
      match skipSpace rest with
      | ':' :: rest =>
        let rest ← skipValue? fuel rest
        match skipSpace rest with
        | '\x7d' :: rest => return rest
        | ',' :: rest => skipFields? fuel rest
        | _ => none
      | _ => none
    | _ => none

end

end TwoWay.Json
