import Mathlib.Logic.Relation
import TwoWay.Proofs.Reading.Suffix

/-!
# Positions in a text

A cursor over a text takes tokens off it and reads grammars from it. Whatever the calls, what is
left under the cursor is an end of the text it started on, so that the part that was read can be cut
off the text and the two make it up again.

A bridge computes where the outer text goes on from sizes alone. Because the inner text moves
forward only, the sizes can be subtracted and the place lies in the outer text: a bridge that checks
both reads like one that does not.

* `View.Move`: one call on a cursor, that is done or fails.
* `View.suffix_of_moves`: a run of calls leaves an end of the text.
* `Bridge.readChecked`: reading across a bridge with a fault for each size that cannot be subtracted
  and each place outside of the text; `Bridge.readChecked_eq` says that grammars never meet it.
* `View.moves_keep_place`: both for every view.
-/

namespace TwoWay

open Relation (ReflTransGen)
open Step (Advances Restores)

/-! ## Calls on a cursor -/

/-- One call on a cursor that ends without a fault: what is left before it, and after it. -/
inductive View.Move (v : View) : v.Text → v.Text → Prop where
  | token {text rest : v.Text} {token : v.Token} (h : v.next? text = some (token, rest)) :
    Move v text rest
  | atEnd {text : v.Text} (h : v.next? text = none) : Move v text text
  | parsed {α : Type} (grammar : Grammar v α) {text rest : v.Text} {value : α}
    (h : grammar.parse text = .done value rest) : Move v text rest
  | refused {α : Type} (grammar : Grammar v α) {text left : v.Text} {failure : Failure}
    (h : grammar.parse text = .failed failure left) : Move v text left

namespace View

variable {v : View} {start now : v.Text}

theorem Move.suffix {text rest : v.Text} (h : v.Move text rest) : rest <:+ text := by
  cases h with
  | token hNext =>
    rw [(v.next?_eq_some hNext).1]
    exact List.suffix_append _ _
  | atEnd => exact List.suffix_rfl
  | parsed grammar hDone => exact grammar.advances_parse _ _ _ hDone
  | refused grammar hFailed =>
    obtain ⟨-, rfl⟩ := grammar.restores_parse _ _ _ hFailed
    exact List.suffix_rfl

theorem suffix_of_moves (h : ReflTransGen v.Move start now) : now <:+ start := by
  induction h with
  | refl => exact List.suffix_rfl
  | tail _ move ih => exact move.suffix.trans ih

/-- What was read up to an end of a text can be cut off, and is all that is not left. -/
theorem consumedSince?_of_suffix (h : now <:+ start) :
    ∃ slice, v.consumedSince? start now = some slice ∧ slice ++ now = start := by
  obtain ⟨slice, rfl⟩ := h
  exact ⟨slice, v.consumedSince?_append slice now, rfl⟩

end View

/-! ## Bridges that check their arithmetic -/

/-- The difference of two sizes, unless it would be negative. -/
def sub? (m n : Nat) : Option Nat := if n ≤ m then some (m - n) else none

/-- What follows a number of elements of a list, unless the list has fewer. -/
def dropWithin? {A : Type} (n : Nat) (s : List A) : Option (List A) :=
  if n ≤ s.length then some (s.drop n) else none

theorem sub?_of_le {m n : Nat} (h : n ≤ m) : sub? m n = some (m - n) := if_pos h

theorem dropWithin?_of_le {A : Type} {n : Nat} {s : List A} (h : n ≤ s.length) :
    dropWithin? n s = some (s.drop n) := if_pos h

section Outcomes

variable {σ τ α : Type}

/-- Puts another state into an outcome; a fault when there is none. -/
def Outcome.moveState? (place? : σ → Option τ) : Outcome σ α → Outcome τ α
  | .done value state =>
    match place? state with
    | some moved => .done value moved
    | none => .aborted .position
  | .failed failure state =>
    match place? state with
    | some moved => .failed failure moved
    | none => .aborted .position
  | .aborted fault => .aborted fault

/-- A place that is there for every end of the text that a step starts on is there for whatever the
step leaves. -/
theorem Outcome.moveState?_eq {A : Type} {p : Step (List A) α} {failure : Failure}
    (hAdvances : Advances p) (hRestores : Restores failure p) {place? : List A → Option τ}
    {place : List A → τ} {s : List A} (h : ∀ rest, rest <:+ s → place? rest = some (place rest)) :
    (p s).moveState? place? = (p s).mapState place := by
  cases hRead : p s with
  | done value rest =>
    simp only [moveState?, h rest (hAdvances s value rest hRead)]
    rfl
  | failed first left =>
    obtain ⟨-, rfl⟩ := hRestores s first left hRead
    simp only [moveState?, h left List.suffix_rfl]
    rfl
  | aborted fault => rfl

end Outcomes

section Checked

variable {α : Type}

/-- Runs a step on a text as one on bytes: the sizes are subtracted and the bytes cut only where
this is possible. -/
def readTextOnBytesChecked (size : List Char → Nat) (p : Step (List Char) α) :
    Step (List UInt8) α := fun bytes =>
  let text := (Utf8.splitText bytes).1
  (p text).moveState? fun rest => (sub? (size text) (size rest)).bind (dropWithin? · bytes)

/-- Runs a step on bytes as one on a text: the sizes are subtracted only where this is possible. A
place inside a scalar is no fault here, the step fails on it. -/
def readBytesOnTextChecked (size : List Char → Nat)
    (cut? : Nat → List Char → Option (List Char × List Char)) (p : Step (List UInt8) α) :
    Step (List Char) α := fun text =>
  match (p (Utf8.encode text)).moveState? fun left => sub? (size text) left.length with
  | .done value count =>
    match cut? count text with
    | some (_, rest) => .done value rest
    | none => .failed .parse text
  | .failed failure count =>
    match cut? count text with
    | some (_, rest) => .failed failure rest
    | none => .failed .parse text
  | .aborted fault => .aborted fault

/-- Runs a reading step across a bridge that checks its arithmetic. -/
def Bridge.readChecked : {w v : View} → Bridge w v → Step w.Text α → Step v.Text α
  | _, _, .graphemesToChars, p => p
  | _, _, .graphemesToBytes, p => readTextOnBytesChecked View.graphemes.size p
  | _, _, .charsToBytes, p => readTextOnBytesChecked View.chars.size p
  | _, _, .bytesToGraphemes, p =>
    readBytesOnTextChecked View.graphemes.size View.graphemes.cut? p
  | _, _, .bytesToChars, p => readBytesOnTextChecked View.chars.size View.chars.cut? p

/-! ## The checks never fail -/

/-- The text that bytes start with has no more bytes than there are. -/
theorem length_encode_splitText_le (bytes : List UInt8) :
    (Utf8.encode (Utf8.splitText bytes).1).length ≤ bytes.length := by
  have hLength := congrArg List.length (Utf8.encode_splitText bytes)
  rw [List.length_append] at hLength
  omega

variable {size : List Char → Nat} {failure : Failure}

theorem readTextOnBytesChecked_eq (hSize : ∀ text, size text = (Utf8.encode text).length)
    {p : Step (List Char) α} (hAdvances : Advances p) (hRestores : Restores failure p) :
    readTextOnBytesChecked size p = readTextOnBytes size p := by
  funext bytes
  refine Outcome.moveState?_eq hAdvances hRestores fun rest h => ?_
  have hRest : size rest ≤ size (Utf8.splitText bytes).1 := by
    obtain ⟨front, hFront⟩ := h
    rw [hSize, hSize, ← hFront, Utf8.encode_append, List.length_append]
    omega
  have hText : size (Utf8.splitText bytes).1 ≤ bytes.length :=
    hSize _ ▸ length_encode_splitText_le bytes
  rw [sub?_of_le hRest, Option.bind_some, dropWithin?_of_le (by omega)]

theorem readBytesOnTextChecked_eq (hSize : ∀ text, size text = (Utf8.encode text).length)
    {cut? : Nat → List Char → Option (List Char × List Char)} {p : Step (List UInt8) α}
    (hAdvances : Advances p) (hRestores : Restores failure p) :
    readBytesOnTextChecked size cut? p =
      readBytesOnText (fun text count => (cut? (size text - count) text).map Prod.snd) p := by
  funext text
  have hPlace : (p (Utf8.encode text)).moveState? (fun left => sub? (size text) left.length) =
      (p (Utf8.encode text)).mapState fun left => size text - left.length :=
    Outcome.moveState?_eq hAdvances hRestores fun left h => sub?_of_le (hSize text ▸ h.length_le)
  unfold readBytesOnTextChecked readBytesOnText
  rw [hPlace]
  cases p (Utf8.encode text) with
  | done value left =>
    simp only [Outcome.mapState]
    cases cut? (size text - left.length) text <;> rfl
  | failed first left =>
    simp only [Outcome.mapState]
    cases cut? (size text - left.length) text <;> rfl
  | aborted fault => rfl

theorem Bridge.readChecked_eq {v w : View} (bridge : Bridge w v) {p : Step w.Text α}
    (hAdvances : Advances p) (hRestores : Restores failure p) :
    bridge.readChecked p = bridge.read p := by
  cases bridge with
  | graphemesToChars => rfl
  | graphemesToBytes =>
    exact readTextOnBytesChecked_eq (View.size_spell .graphemes) hAdvances hRestores
  | charsToBytes => exact readTextOnBytesChecked_eq (View.size_spell .chars) hAdvances hRestores
  | bytesToGraphemes =>
    exact readBytesOnTextChecked_eq (View.size_spell .graphemes) hAdvances hRestores
  | bytesToChars => exact readBytesOnTextChecked_eq (View.size_spell .chars) hAdvances hRestores

end Checked

/-! ## Both for every view -/

/-- **Nothing is lost.**  What is left after calls on a cursor, each of them done or failed, is an
end of the text the cursor started on; what was read can be cut off that text, and with what is left
it makes up the text. Reading a grammar across a bridge subtracts and cuts only where this is
possible. -/
theorem View.moves_keep_place (v : View) :
    (∀ start now : v.Text, ReflTransGen v.Move start now →
      now <:+ start ∧ ∃ slice, v.consumedSince? start now = some slice ∧ slice ++ now = start) ∧
    ∀ (w : View) (bridge : Bridge w v) (α : Type) (grammar : Grammar w α),
      bridge.readChecked grammar.parse = (Grammar.across bridge grammar).parse :=
  ⟨fun _ _ h => ⟨suffix_of_moves h, consumedSince?_of_suffix (suffix_of_moves h)⟩,
    fun _ bridge _ grammar => bridge.readChecked_eq grammar.advances_parse grammar.restores_parse⟩

/-- On bytes that end in no text, a scalar is read across a bridge, a second one is not there, and
the byte is taken as it is. -/
theorem View.moves_keep_place_stray :
    let start : View.bytes.Text := [0xC3, 0xA9, 0xFF]
    ReflTransGen View.bytes.Move start [] ∧ View.bytes.consumedSince? start [] = some start := by
  intro start
  have hScalar : (Grammar.across .charsToBytes .token).parse start = .done 'é' [0xFF] := by
    decide +kernel
  have hNone : (Grammar.across .charsToBytes .token).parse [0xFF] = .failed .parse [0xFF] := by
    decide +kernel
  have hRun : ReflTransGen View.bytes.Move start [] :=
    ((ReflTransGen.single (.parsed _ hScalar)).tail (.refused _ hNone)).tail (.token rfl)
  obtain ⟨-, slice, hSlice, hAll⟩ := (View.moves_keep_place .bytes).1 start [] hRun
  rw [List.append_nil] at hAll
  exact ⟨hRun, hAll ▸ hSlice⟩

end TwoWay
