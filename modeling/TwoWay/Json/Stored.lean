import TwoWay.Json.Field
import TwoWay.Json.Write
import TwoWay.Outcome

/-!
# Stored failures and wrappers

A failure is stored as its name, or as an object that has the name for its only key and nothing for
its value. What is wrapped to run across a bridge is stored as an object with one field; other
fields are passed over, and an array of one item is taken for the object.

* `Stored.recode?`: reads a stored text and writes it again in canonical form.
-/

namespace TwoWay

/-- What can be stored. -/
inductive Stored where
  | failure
  | wrapper
  deriving DecidableEq, Repr

/-- The name under which a failure is stored. -/
def Failure.name : Failure → String
  | .parse => "Parse"
  | .print => "Print"

/-- The failure stored under a name. -/
def Failure.ofName? (name : String) : Option Failure :=
  if name = Failure.name .parse then some .parse
  else if name = Failure.name .print then some .print
  else none

/-- The failure that a JSON text stores. -/
def Failure.ofJson? : Json → Option Failure
  | .string name => ofName? name
  | .object [(name, .null)] => ofName? name
  | _ => none

/-- The field that holds what is wrapped. -/
def wrappedField : String := "upstream"

/-- Stored texts may be nested this deep. -/
def Stored.greatestDepth : Nat := 127

/-- The failure that a text stores. -/
def Failure.ofText? (text : String) : Option Failure :=
  (Json.readWithin? Stored.greatestDepth text).bind ofJson?

/-- What a text stores in its wrapper. The field may not be missing or repeated. -/
def wrapped? (text : String) : Option Json :=
  match Json.readNamed? wrappedField Stored.greatestDepth text with
  | some [json] => some json
  | some _ => none
  | none =>
    match Json.readWithin? Stored.greatestDepth text with
    | some (.array [json]) => some json
    | _ => none

/-- Reads a stored text and writes it again. -/
def Stored.recode? (stored : Stored) (text : String) : Option String := do
  match stored with
  | failure =>
    let failure ← Failure.ofText? text
    return (Json.string failure.name).write
  | wrapper =>
    let inner ← wrapped? text
    let canonical ← inner.canonical?
    return (Json.object [(wrappedField, canonical)]).write

end TwoWay
