import TwoWay.Leaf.Literal

/-!
# Bridges between views

A step that reads one view can be run on another view of the same text.

A step on a text view, run on bytes, sees the longest well-formed text that the bytes start with,
and leaves as many bytes fewer as it read. A step on bytes, run on a text view, may stop inside a
scalar; what it leaves is then no text, so the step fails where it started. Clusters and scalars
have the same texts, so nothing has to be done between them.

Writing across a bridge goes through a buffer of its own, except between clusters and scalars.
-/

namespace TwoWay

/-- The ways to run a step on a view `w` as one on a view `v`. -/
inductive Bridge : (w v : View) → Type where
  | graphemesToChars : Bridge .graphemes .chars
  | graphemesToBytes : Bridge .graphemes .bytes
  | charsToBytes : Bridge .chars .bytes
  | bytesToGraphemes : Bridge .bytes .graphemes
  | bytesToChars : Bridge .bytes .chars
  deriving DecidableEq, Repr

variable {α : Type}

/-! ## Texts on bytes -/

/-- Runs a step on a text as one on bytes. -/
def readTextOnBytes (size : List Char → Nat) (p : Step (List Char) α) : Step (List UInt8) α :=
  fun bytes =>
    let text := (Utf8.splitText bytes).1
    (p text).mapState fun rest => bytes.drop (size text - size rest)

/-- Writes a text into a buffer of bytes. -/
def writeTextOnBytes (p : Step (List Char) Unit) : Step (List UInt8) Unit := fun buffer =>
  match p [] with
  | .done _ text => .done () (buffer ++ Utf8.encode text)
  | .failed failure _ => .failed failure buffer
  | .aborted fault => .aborted fault

/-! ## Bytes on texts -/

/-- What is left of a text when a number of its bytes is left. -/
def View.lastBytes? (v : View) (text : v.Text) (count : Nat) : Option v.Text :=
  (v.cut? (v.size text - count) text).map Prod.snd

/-- Runs a step on bytes as one on a text. -/
def readBytesOnText (restOf? : List Char → Nat → Option (List Char)) (p : Step (List UInt8) α) :
    Step (List Char) α := fun text =>
  match p (Utf8.encode text) with
  | .done a left =>
    match restOf? text left.length with
    | some rest => .done a rest
    | none => .failed .parse text
  | .failed failure left =>
    match restOf? text left.length with
    | some rest => .failed failure rest
    | none => .failed .parse text
  | .aborted fault => .aborted fault

/-- Writes bytes into a buffer of text. -/
def writeBytesOnText (p : Step (List UInt8) Unit) : Step (List Char) Unit := fun buffer =>
  match p [] with
  | .done _ bytes =>
    match Utf8.decode? bytes with
    | some text => .done () (buffer ++ text)
    | none => .failed .print buffer
  | .failed failure _ => .failed failure buffer
  | .aborted fault => .aborted fault

/-! ## All bridges -/

namespace Bridge

/-- Runs a reading step across a bridge. -/
def read : {w v : View} → Bridge w v → Step w.Text α → Step v.Text α
  | _, _, .graphemesToChars, p => p
  | _, _, .graphemesToBytes, p => readTextOnBytes View.graphemes.size p
  | _, _, .charsToBytes, p => readTextOnBytes View.chars.size p
  | _, _, .bytesToGraphemes, p => readBytesOnText View.graphemes.lastBytes? p
  | _, _, .bytesToChars, p => readBytesOnText View.chars.lastBytes? p

/-- Runs a writing step across a bridge. -/
def write : {w v : View} → Bridge w v → Step w.Text Unit → Step v.Text Unit
  | _, _, .graphemesToChars, p => p
  | _, _, .graphemesToBytes, p | _, _, .charsToBytes, p => writeTextOnBytes p
  | _, _, .bytesToGraphemes, p | _, _, .bytesToChars, p => writeBytesOnText p

end Bridge

end TwoWay
