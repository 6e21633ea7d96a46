import TwoWay.Description.Functions
import TwoWay.Description.TokenTest
import TwoWay.Grammar.Repetition

/-!
# Descriptions of grammars

A grammar given as data. Building it makes the settings of its runs and repetitions in order, and
stops at the first bounds that exclude each other.

* `Description.build`: the grammar of a description.
* `BuildError.message`: the text that refuses a description.
-/

namespace TwoWay

/-- Fixed texts. -/
inductive LiteralText where
  | text (text : List Char)
  | bytes (bytes : List UInt8)

/-- A fixed text on a view. Bytes that are no text can only be literals of the byte views. -/
def LiteralText.on? : (v : View) → LiteralText → Option v.Text
  | v, .text spelled => some (v.spell spelled)
  | .bytes, .bytes given | .sharedBytes, .bytes given => some given
  | .chars, .bytes _ | .graphemes, .bytes _ => none

mutual

/-- Grammars as data. -/
inductive Description where
  | always (value : Value)
  | finish
  | token
  | literal (text : LiteralText)
  | lineEnd
  | run (test : TokenTest) (bounds : List Bounds.Change)
  | int (type : IntType)
  | numeral
  | identifier
  | pair (first second : Description)
  | skipThen (first second : Description)
  | thenSkip (first second : Description)
  | orElse (first second : Description)
  | optional (description : Description)
  | map (mapping : Mapping) (description : Description)
  | convert (conversion : Conversion) (description : Description)
  | writtenBy (reader writer : Description)
  | many (element : Description) (settings : List DescribedSetting)
  | across (inner outer : View) (description : Description)

/-- Settings of a repetition as data. -/
inductive DescribedSetting where
  | bound (change : Bounds.Change)
  | separatedBy (separator : Description)
  | fold (folding : Folding)
  | decompose (decomposition : Decomposition)

end

/-- Why a description has no grammar on a view. -/
inductive BuildError where
  | run (conflict : BoundsConflict)
  | repetition (conflict : BoundsConflict)
  | unsupported
  deriving DecidableEq, Repr

/-- The text that refuses a description. -/
def BuildError.message : BuildError → String
  | .run conflict => conflict.runMessage
  | .repetition conflict => conflict.repetitionMessage
  | .unsupported => "no such grammar on this view"

/-- The bridge from one view to another, if there is one. -/
def Bridge.between? : (w v : View) → Option (Bridge w v)
  | .graphemes, .chars => some .graphemesToChars
  | .graphemes, .bytes => some .graphemesToBytes
  | .chars, .bytes => some .charsToBytes
  | .bytes, .graphemes => some .bytesToGraphemes
  | .bytes, .chars => some .bytesToChars
  | _, _ => none

namespace Grammar

variable {v : View}

/-- A grammar without a value, with the unit as its value. -/
def unitValue (grammar : Grammar v Unit) : Grammar v Value :=
  .convert (fun _ => .unit) (fun _ => ()) grammar

/-- A grammar whose value is left out, and is the unit when it is written. -/
def ignored (grammar : Grammar v Value) : Grammar v Unit :=
  .convert (fun _ => ()) (fun _ => .unit) grammar

/-- A grammar of texts with values for the texts. -/
def textValue (grammar : Grammar v v.Text) : Grammar v Value :=
  .convert v.ofText v.toText grammar

end Grammar

namespace Description

mutual

/-- The grammar of a description on a view. -/
def build : (v : View) → Description → Except BuildError (Grammar v Value)
  | _, always value => .ok (.always value)
  | _, finish => .ok (.unitValue .finish)
  | v, token => .ok (.convert v.ofToken v.toToken .token)
  | v, literal text =>
    match text.on? v with
    | some text => .ok (.unitValue (.literal text))
    | none => .error .unsupported
  | _, lineEnd => .ok (.unitValue .lineEnd)
  | v, run test changes =>
    match Bounds.unbounded.changeAll? changes with
    | .ok bounds => .ok (.textValue (.run (test.ask v) bounds))
    | .error conflict => .error (.run conflict)
  | v, int type =>
    if h : v.hasCharacters = true then
      .ok (.convert Value.int Value.toInt (.number (.int type) h))
    else .error .unsupported
  | v, numeral =>
    if h : v.hasCharacters = true then
      .ok (.convert Value.text Value.toChars (.number .raw h))
    else .error .unsupported
  | v, identifier =>
    if h : v.hasCharacters = true then .ok (.textValue (.identifier h)) else .error .unsupported
  | v, pair first second => do
    let first ← build v first
    let second ← build v second
    return .convert (fun (a, b) => .pair a b) Value.toPair (.pair first second)
  | v, skipThen first second => do
    let first ← build v first
    let second ← build v second
    return .skipThen first.ignored second
  | v, thenSkip first second => do
    let first ← build v first
    let second ← build v second
    return .thenSkip first second.ignored
  | v, orElse first second => do
    let first ← build v first
    let second ← build v second
    return .orElse first second
  | v, optional description => do
    let grammar ← build v description
    return .convert Value.ofOption Value.toOption (.optional grammar)
  | v, map mapping description => do
    let grammar ← build v description
    return .map mapping.apply grammar
  | v, convert conversion description => do
    let grammar ← build v description
    return .convert conversion.apply conversion.unapply grammar
  | v, writtenBy reader writer => do
    let reader ← build v reader
    let writer ← build v writer
    return .unitValue (.writtenBy reader writer.ignored)
  | v, many element settings => do
    let element ← build v element
    let repetition ← buildMany v ⟨element, .always (), .unbounded, .values⟩ settings
    return repetition.grammar
  | v, across inner outer description => do
    let grammar ← build inner description
    if h : outer = v then
      match Bridge.between? inner outer with
      | some bridge => return h ▸ .across bridge grammar
      | none => throw .unsupported
    else throw .unsupported

/-- A repetition with described settings made in order. -/
def buildMany (v : View) (repetition : Repetition v Value Value) :
    List DescribedSetting → Except BuildError (Repetition v Value Value)
  | [] => .ok repetition
  | setting :: settings => do
    let setting ← buildSetting v setting
    match repetition.set? setting with
    | .ok changed => buildMany v changed settings
    | .error conflict => .error (.repetition conflict)

/-- A described setting on a view. -/
def buildSetting (v : View) : DescribedSetting → Except BuildError (Setting v Value Value Value)
  | .bound change => .ok (.bound change)
  | .separatedBy separator => do
    let separator ← build v separator
    return .separatedBy separator.ignored
  | .fold folding => .ok (.fold folding.initial folding.add)
  | .decompose decomposition => .ok (.decompose decomposition.parts)

end

/-- The grammars of descriptions in order, up to the first that has none. -/
def buildAll (v : View) : List Description → Except BuildError (List (Grammar v Value))
  | [] => .ok []
  | description :: descriptions => do
    let grammar ← build v description
    let grammars ← buildAll v descriptions
    return grammar :: grammars

end Description

end TwoWay
