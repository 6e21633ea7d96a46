import TwoWay.Json.Skip

/-!
# Reading the fields of one name

Of an object only the fields of one name are read. The values of the others are passed over.

* `Json.readNamed?`: the values of the fields of one name, in the object that a whole text spells.
-/

namespace TwoWay.Json

/-- Reads the values of the fields of one name, and passes over the other fields and the end of the
object. All keys are read. -/
def readNamedFields? (name : String) :
    (fuel depth : Nat) → List Char → Option (List Json × List Char)
  | 0, _, _ => none
  | fuel + 1, depth, text =>
    match skipSpace text with
    | '"' :: rest => do
      let (key, rest) ← readString? rest
      match skipSpace rest with
      | ':' :: rest =>
        let (values, rest) ←
          if String.ofList key == name then
            (readValue? fuel depth rest).map fun (value, rest) => ([value], rest)
          else (skipValue? fuel rest).map fun rest => ([], rest)
        match skipSpace rest with
        | '\x7d' :: rest => return (values, rest)
        | ',' :: rest =>
          let (more, rest) ← readNamedFields? name fuel depth rest
          return (values ++ more, rest)
        | _ => none
      | _ => none
    | _ => none

/-- The values of the fields of one name, in the object that a whole text spells. With them it is
nested at most `depth` deep. Every two rounds of reading take at least one character. -/
def readNamed? (name : String) (depth : Nat) (text : String) : Option (List Json) :=
  let chars := text.toList
  match depth, skipSpace chars with
  | depth + 1, '\x7b' :: rest =>
    let read? :=
      match skipSpace rest with
      | '\x7d' :: rest => some ([], rest)
      | rest => readNamedFields? name (2 * chars.length + 2) depth rest
    match read? with
    | some (values, rest) => if (skipSpace rest).isEmpty then some values else none
    | none => none
  | _, _ => none

end TwoWay.Json
