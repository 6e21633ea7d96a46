import TwoWay.Proofs.Bridge.Ascii
import TwoWay.Proofs.Bridge.WellFormed

/-!
# Texts at the front of bytes

A step on a text, run on bytes, sees the longest text that the bytes start with, as the table of
well-formed sequences has it. It comes to what it comes to on that text, and the bytes behind the
text are left as they are, so nothing depends on them.

* `Utf8.LongestText`: the longest well-formed front of some bytes, and what stands behind it.
* `Utf8.longestText_iff`: it ends where no scalar can be read.
* `Bridge.read_eq`: a step that leaves an end of its text leaves the bytes of that end and what
  stands behind.
* `Bridge.reads_longestText`: all this for every bridge from texts to bytes.
-/

namespace TwoWay

/-! ## The longest text -/

namespace Utf8

/-- The bytes start with a well-formed front, which no other well-formed front is longer than, and
go on with a tail. -/
structure LongestText (bytes front tail : List UInt8) : Prop where
  eq_append : bytes = front ++ tail
  wellFormed : WellFormed front
  longest : ∀ other, other <+: bytes → WellFormed other → other.length ≤ front.length

variable {bytes front tail : List UInt8}

/-- A scalar that could be read behind the longest text would make it longer. -/
theorem LongestText.decodeChar?_tail (h : LongestText bytes front tail) :
    decodeChar? tail = none := by
  cases hTail : decodeChar? tail with
  | none => rfl
  | some found =>
    obtain ⟨c, rest⟩ := found
    obtain ⟨text, hText⟩ := wellFormed_iff.1 h.wellFormed
    have hLonger : encode (text ++ [c]) = front ++ String.utf8EncodeChar c := by
      rw [encode_append, hText, encode_cons, encode_nil, List.append_nil]
    have hPrefix : encode (text ++ [c]) <+: bytes := by
      refine ⟨rest, ?_⟩
      rw [hLonger, h.eq_append, eq_of_decodeChar? hTail, List.append_assoc]
    have hLength := h.longest _ hPrefix (wellFormed_encode _)
    have hPos := Char.utf8Size_pos c
    rw [hLonger, List.length_append, String.length_utf8EncodeChar] at hLength
    omega

/-- Where no scalar can be read, the text before is the longest one. -/
theorem longestText_encode_append (text : List Char) (h : decodeChar? tail = none) :
    LongestText (encode text ++ tail) (encode text) tail where
  eq_append := rfl
  wellFormed := wellFormed_encode text
  longest := by
    rintro other ⟨rest, hRest⟩ hOther
    obtain ⟨found, rfl⟩ := wellFormed_iff.1 hOther
    -- the text is read off the bytes on both sides, and so it starts with the other one
    have hSplit := congrArg splitText hRest
    rw [splitText_append, splitText_encode_append text h] at hSplit
    have hText : found ++ (splitText rest).1 = text := congrArg Prod.fst hSplit
    rw [← hText, encode_append, List.length_append]
    omega

/-- **The longest text ends where no scalar can be read.** -/
theorem longestText_iff :
    LongestText bytes front tail ↔
      bytes = front ++ tail ∧ (∃ text, encode text = front) ∧ decodeChar? tail = none := by
  constructor
  · intro h
    exact ⟨h.eq_append, wellFormed_iff.1 h.wellFormed, h.decodeChar?_tail⟩
  · rintro ⟨rfl, ⟨text, rfl⟩, hTail⟩
    exact longestText_encode_append text hTail

end Utf8

/-! ## Steps on the longest text -/

/-- Whatever the step leaves, done or failed, is an end of the list it started with. -/
structure Step.LeavesEnd {A α : Type} (p : Step (List A) α) : Prop where
  advances : p.Advances
  of_failed : ∀ s failure rest, p s = .failed failure rest → rest <:+ s

theorem Grammar.leavesEnd_parse {v : View} {α : Type} (grammar : Grammar v α) :
    grammar.parse.LeavesEnd where
  advances := grammar.advances_parse
  of_failed := fun s failure rest h => by
    obtain ⟨-, rfl⟩ := grammar.restores_parse s failure rest h
    exact List.suffix_rfl

section Steps

open Utf8 (LongestText)

variable {w : View} {α : Type} {tail : List UInt8}

theorem readTextOnBytes_eq {size : List Char → Nat}
    (hSize : ∀ text, size text = (Utf8.encode text).length) {p : Step (List Char) α}
    (hp : p.LeavesEnd) (text : List Char) (hTail : Utf8.decodeChar? tail = none) :
    readTextOnBytes size p (Utf8.encode text ++ tail) =
      (p text).mapState fun rest => Utf8.encode rest ++ tail := by
  unfold readTextOnBytes
  rw [Utf8.splitText_encode_append text hTail]
  cases hRead : p text with
  | done a rest =>
    obtain ⟨front, rfl⟩ := hp.advances text a rest hRead
    simp only [hRead, Outcome.mapState, drop_encode_append hSize]
  | failed failure rest =>
    obtain ⟨front, rfl⟩ := hp.of_failed text failure rest hRead
    simp only [hRead, Outcome.mapState, drop_encode_append hSize]
  | aborted fault => simp only [hRead, Outcome.mapState]

namespace Bridge

/-- On bytes, a step comes to what it comes to on their longest text. -/
theorem read_eq (bridge : Bridge w .bytes) {p : Step w.Text α} (hp : p.LeavesEnd)
    {bytes : List UInt8} {text : w.Text} (h : LongestText bytes (w.toBytes text) tail) :
    bridge.read p bytes = (p text).mapState fun rest => w.toBytes rest ++ tail := by
  obtain ⟨rfl, -, hTail⟩ := Utf8.longestText_iff.1 h
  cases bridge with
  | graphemesToBytes => exact readTextOnBytes_eq (View.size_spell .graphemes) hp text hTail
  | charsToBytes => exact readTextOnBytes_eq (View.size_spell .chars) hp text hTail

theorem exists_longestText (bridge : Bridge w .bytes) (bytes : List UInt8) :
    ∃ text tail, LongestText bytes (w.toBytes text) tail := by
  obtain ⟨text, tail, hTail, rfl⟩ := bridge.exists_spells bytes
  cases bridge with
  | graphemesToBytes | charsToBytes =>
    exact ⟨text, tail, Utf8.longestText_iff.2 ⟨rfl, ⟨text, rfl⟩, hTail⟩⟩

end Bridge

end Steps

/-! ## All this for every bridge -/

/-- **A text that is read in bytes is the longest one.** All bytes start with a longest well-formed
text. A step that leaves ends of its texts comes to on the bytes what it comes to on that text, and
leaves the bytes of what it leaves there with what stands behind the text; every grammar is such a
step. So nothing behind the text is ever read, and what stands there changes nothing as long as the
text stays the longest one. -/
theorem Bridge.reads_longestText {w : View} (bridge : Bridge w .bytes) :
    (∀ bytes, ∃ text tail, Utf8.LongestText bytes (w.toBytes text) tail) ∧
    (∀ (α : Type) (p : Step w.Text α), p.LeavesEnd →
      ∀ bytes text tail, Utf8.LongestText bytes (w.toBytes text) tail →
        bridge.read p bytes = (p text).mapState fun rest => w.toBytes rest ++ tail) ∧
    (∀ (α : Type) (grammar : Grammar w α), grammar.parse.LeavesEnd ∧
      ∀ bytes text tail, Utf8.LongestText bytes (w.toBytes text) tail →
        (Grammar.across bridge grammar).parse bytes =
          (grammar.parse text).mapState fun rest => w.toBytes rest ++ tail) ∧
    ∀ (α : Type) (grammar : Grammar w α) (text : w.Text), ∃ outcome : Outcome (List UInt8) α,
      ∀ bytes tail, Utf8.LongestText bytes (w.toBytes text) tail →
        (Grammar.across bridge grammar).parse bytes = outcome.mapState (· ++ tail) := by
  refine ⟨bridge.exists_longestText, fun α p hp _ _ _ h => bridge.read_eq hp h,
    fun α grammar => ?_, fun α grammar text => ?_⟩
  · exact ⟨grammar.leavesEnd_parse, fun _ _ _ h => bridge.read_eq grammar.leavesEnd_parse h⟩
  · refine ⟨(grammar.parse text).mapState w.toBytes, fun bytes tail h => ?_⟩
    rw [Outcome.mapState_mapState]
    exact bridge.read_eq grammar.leavesEnd_parse h

/-- The bytes of a word are followed by those of a surrogate, and then by those of a letter. -/
theorem Bridge.reads_longestText_surrogate :
    let grammar : Grammar .chars (List Char) := .run (.ofPred Char.isAlpha) (.orMore 1)
    let tail : List UInt8 := [0xED, 0xA0, 0x80, 0x61]
    Utf8.LongestText (Utf8.encode ['a', 'é'] ++ tail) (Utf8.encode ['a', 'é']) tail ∧
      (Grammar.across .charsToBytes grammar).parse (Utf8.encode ['a', 'é'] ++ tail) =
        .done ['a'] (Utf8.encode ['é'] ++ tail) := by
  intro grammar tail
  have hLongest : Utf8.LongestText (Utf8.encode ['a', 'é'] ++ tail) (Utf8.encode ['a', 'é']) tail :=
    Utf8.longestText_encode_append ['a', 'é'] (by decide)
  obtain ⟨-, -, hGrammar, -⟩ := Bridge.reads_longestText .charsToBytes
  refine ⟨hLongest, ?_⟩
  rw [(hGrammar _ grammar).2 _ ['a', 'é'] tail hLongest]
  decide +kernel

end TwoWay
