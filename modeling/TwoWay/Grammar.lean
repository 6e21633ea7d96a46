import TwoWay.Bridge
import TwoWay.Leaf.Identifier
import TwoWay.Leaf.Number
import TwoWay.Repetition.Read
import TwoWay.Repetition.Write

/-!
# Grammars

A grammar describes a text of a view that stands for a value. It is used in both directions:
`parse` reads the value from the front of a text and leaves what follows, `print` appends the text
of a value to a buffer. A failed reading leaves the text as it was, and a failed writing leaves the
buffer as it was.

Some grammars describe many texts and write one of them, and some read values that they cannot
write, so writing and then reading a value need not give the value back.

* `parseAll`: the value of a whole text.
* `printToBuffer`: the text of a value, on its own.
-/

namespace TwoWay

/-- Descriptions of the texts of a view that stand for values of a type.

* `always` stands for nothing and gives the value.
* `finish` stands for the end of the text.
* `token` stands for any one token.
* `literal` stands for a fixed text.
* `lineEnd` stands for a line end of one or two characters, and is written with one.
* `run` stands for as many tokens as pass the test, if their number meets the bounds.
* `number` and `identifier` stand for a numeral and for a name.
* `pair`, `skipThen` and `thenSkip` stand for one text after another, and give the values of both,
  of the second or of the first.
* `orElse` stands for what the first stands for or, where that fails, the second.
* `optional` stands for a text that may be missing.
* `map` gives another value when it is read, and cannot be written.
* `convert` gives another value when it is read, and is written as the value it is converted from.
* `writtenBy` is read as the first and written as the second.
* `many` stands for a repetition with a separator between its elements.
* `across` describes the text in another view. -/
inductive Grammar : View → Type → Type 1 where
  | always {v : View} {α : Type} (value : α) : Grammar v α
  | finish {v : View} : Grammar v Unit
  | token {v : View} : Grammar v v.Token
  | literal {v : View} (text : v.Text) : Grammar v Unit
  | lineEnd {v : View} : Grammar v Unit
  | run {v : View} (test : Test v) (bounds : Bounds) : Grammar v v.Text
  | number {v : View} {α : Type} (form : NumberForm α) (h : v.hasCharacters = true) : Grammar v α
  | identifier {v : View} (h : v.hasCharacters = true) : Grammar v v.Text
  | pair {v : View} {α β : Type} (first : Grammar v α) (second : Grammar v β) : Grammar v (α × β)
  | skipThen {v : View} {β : Type} (first : Grammar v Unit) (second : Grammar v β) : Grammar v β
  | thenSkip {v : View} {α : Type} (first : Grammar v α) (second : Grammar v Unit) : Grammar v α
  | orElse {v : View} {α : Type} (first second : Grammar v α) : Grammar v α
  | optional {v : View} {α : Type} (grammar : Grammar v α) : Grammar v (Option α)
  | map {v : View} {α β : Type} (f : α → β) (grammar : Grammar v α) : Grammar v β
  | convert {v : View} {α β : Type} (apply : α → β) (unapply : β → α) (grammar : Grammar v α) :
      Grammar v β
  | writtenBy {v : View} {α : Type} (reader : Grammar v α) (writer : Grammar v Unit) :
      Grammar v Unit
  | many {v : View} {α ρ : Type} (element : Grammar v α) (separator : Grammar v Unit)
      (bounds : Bounds) (acc : Accumulator α ρ) : Grammar v ρ
  | across {w v : View} {α : Type} (bridge : Bridge w v) (grammar : Grammar w α) : Grammar v α

namespace Grammar

/-- Reads the value of a text that stands at the front, and leaves what follows. -/
def parse : {v : View} → {α : Type} → Grammar v α → Step v.Text α
  | _, _, always value => Step.pure value
  | v, _, finish => readEnd v
  | v, _, token => readToken v
  | _, _, literal text => readLiteral text
  | v, _, lineEnd => readLineEnd v
  | _, _, run test bounds => readRun test bounds
  | v, _, number form _ => readNumber v form
  | v, _, identifier _ => readIdentifier v
  | v, _, pair first second => Step.andThen v.restart first.parse second.parse
  | v, _, skipThen first second =>
    (Step.andThen v.restart first.parse second.parse).map Prod.snd
  | v, _, thenSkip first second =>
    (Step.andThen v.restart first.parse second.parse).map Prod.fst
  | _, _, orElse first second => Step.orElse first.parse second.parse
  | _, _, optional grammar => Step.attempt grammar.parse
  | _, _, map f grammar => Step.map f grammar.parse
  | _, _, convert apply _ grammar => Step.map apply grammar.parse
  | _, _, writtenBy reader _ => Step.map (fun _ => ()) reader.parse
  | v, _, many element separator bounds acc =>
    readMany v.size element.parse separator.parse bounds acc
  | _, _, across bridge grammar => bridge.read grammar.parse

/-- Appends the text of a value to a buffer. -/
def print : {v : View} → {α : Type} → Grammar v α → α → Step v.Text Unit
  | _, _, always _, _ => Step.pure ()
  | _, _, finish, _ => Step.pure ()
  | _, _, token, value => writeToken value
  | _, _, literal text, _ => append text
  | v, _, lineEnd, _ => writeLineEnd v
  | _, _, run test bounds, value => writeRun test bounds value
  | v, _, number form _, value => writeNumber v form value
  | _, _, identifier _, value => writeIdentifier value
  | v, _, pair first second, value =>
    (Step.andThen v.retract (first.print value.1) (second.print value.2)).map fun _ => ()
  | v, _, skipThen first second, value =>
    (Step.andThen v.retract (first.print ()) (second.print value)).map fun _ => ()
  | v, _, thenSkip first second, value =>
    (Step.andThen v.retract (first.print value) (second.print ())).map fun _ => ()
  | _, _, orElse first second, value => Step.orElse (first.print value) (second.print value)
  | _, _, optional grammar, some value => grammar.print value
  | _, _, optional _, none => Step.pure ()
  | _, _, map _ _, _ => Step.fail .print
  | _, _, convert _ unapply grammar, value => grammar.print (unapply value)
  | _, _, writtenBy _ writer, _ => writer.print ()
  | _, _, many element separator bounds acc, value =>
    writeMany element.print (separator.print ()) bounds (acc.parts value)
  | _, _, across bridge grammar, value => bridge.write (grammar.print value)

variable {v : View} {α : Type}

/-- Reads the value of a whole text. -/
def parseAll (grammar : Grammar v α) (text : v.Text) : Outcome v.Text α :=
  match grammar.parse text with
  | .done value rest => if rest.isEmpty then .done value rest else .failed .parse rest
  | outcome => outcome

/-- The text of a value, written into a buffer of its own. -/
def printToBuffer (grammar : Grammar v α) (value : α) : Outcome v.Text Unit :=
  grammar.print value []

end Grammar

end TwoWay
