import TwoWay.Proofs.Bridge.Spelling
import TwoWay.Proofs.Reading.Run

/-!
# ASCII on scalars and on bytes

An ASCII scalar is spelled as one byte of the same value. The first byte of any other scalar is no
such byte, and neither is the first byte of a tail that is no text. So a run of ASCII characters
ends in the same place whether scalars or bytes are looked at, and a literal stands at the front of
a text exactly when its bytes stand at the front of the bytes.

* `SameAscii`: an ASCII scalar and the byte that spells it.
* `AsciiTest`: a test of scalars and one of bytes that accept the same ASCII characters only.
* `AsciiTest.lockstep_takeRun`: runs of ASCII characters are read in lockstep.
* `lockstep_readLiteral`, `lockstep_readNumber`: so are literals and numbers.
-/

namespace TwoWay

/-! ## Scalars and their bytes -/

namespace Utf8

/-- Whatever follows the bytes of a text, the text is read off them. -/
theorem splitText_append (text : List Char) (bytes : List UInt8) :
    splitText (encode text ++ bytes) = (text ++ (splitText bytes).1, (splitText bytes).2) := by
  induction text with
  | nil => rfl
  | cons c text ih =>
    rw [encode_cons, List.append_assoc,
      splitText_of_decodeChar? (decodeChar?_utf8EncodeChar_append c _), ih]
    rfl

theorem utf8EncodeChar_of_ascii {c : Char} (h : c.toNat < 0x80) :
    String.utf8EncodeChar c = [UInt8.ofNat c.toNat] := by
  rw [utf8EncodeChar_eq]
  exact if_pos (Nat.le_of_lt_succ h)

/-- The first byte of a scalar that is not ASCII is not ASCII. -/
theorem utf8EncodeChar_eq_cons {c : Char} (h : 0x80 ≤ c.toNat) :
    ∃ b more, String.utf8EncodeChar c = b :: more ∧ 0x80 ≤ b.toNat := by
  have hNot : ¬ c.val.toNat ≤ 0x7F := Nat.not_le_of_lt h
  rw [utf8EncodeChar_eq, if_neg hNot]
  split
  · exact ⟨_, _, rfl, by rw [UInt8.toNat_ofNat']; omega⟩
  · split
    · exact ⟨_, _, rfl, by rw [UInt8.toNat_ofNat']; omega⟩
    · exact ⟨_, _, rfl, by rw [UInt8.toNat_ofNat']; omega⟩

/-- A byte is the code point of a scalar. -/
theorem toNat_ofNat_toNat (b : UInt8) : (Char.ofNat b.toNat).toNat = b.toNat := by
  have hByte := b.toNat_lt
  have hValid : b.toNat.isValidChar := Or.inl (by omega)
  rw [Char.ofNat, dif_pos hValid]
  rfl

end Utf8

/-- An ASCII scalar and the byte that spells it. -/
def SameAscii (c : Char) (b : UInt8) : Prop := c.toNat = b.toNat ∧ c.toNat < 0x80

namespace SameAscii

variable {c : Char} {b : UInt8}

theorem encode_eq (h : SameAscii c b) : String.utf8EncodeChar c = [b] := by
  rw [Utf8.utf8EncodeChar_of_ascii h.2, h.1, UInt8.ofNat_toNat]

theorem ofNat_eq (h : SameAscii c b) : Char.ofNat b.toNat = c := by
  rw [← h.1, Char.ofNat_toNat]

theorem character?_eq (h : SameAscii c b) : View.chars.character? c = View.bytes.character? b :=
  congrArg some h.ofNat_eq.symm

theorem of_byte (h : b.toNat < 0x80) : SameAscii (Char.ofNat b.toNat) b :=
  ⟨Utf8.toNat_ofNat_toNat b, by rwa [Utf8.toNat_ofNat_toNat]⟩

end SameAscii

namespace Utf8

theorem decodeChar?_ne_none {b : UInt8} (h : b.toNat < 0x80) (bytes : List UInt8) :
    decodeChar? (b :: bytes) ≠ none := by
  have hFound := decodeChar?_utf8EncodeChar_append (Char.ofNat b.toNat) bytes
  rw [(SameAscii.of_byte h).encode_eq, List.singleton_append] at hFound
  rw [hFound]
  exact Option.some_ne_none _

end Utf8

/-! ### The front of a text and of its bytes -/

namespace View

variable {tail bytes : List UInt8} {text : List Char}

/-- An ASCII scalar at the front of a text is one byte at the front of its bytes. -/
theorem Spells.of_ascii {c : Char} (h : Spells .chars tail (c :: text) bytes)
    (hAscii : c.toNat < 0x80) :
    ∃ b left, bytes = b :: left ∧ SameAscii c b ∧ Spells .chars tail text left := by
  have hSame : SameAscii c (UInt8.ofNat c.toNat) := ⟨by rw [UInt8.toNat_ofNat']; omega, hAscii⟩
  refine ⟨_, View.chars.toBytes text ++ tail, ?_, hSame, rfl⟩
  rw [h, View.toBytes, Utf8.encode_cons, hSame.encode_eq]
  rfl

/-- No ASCII byte is at the front of the bytes when no ASCII scalar is at the front of the text. -/
theorem Spells.not_ascii (h : Spells .chars tail text bytes) (hTail : Utf8.decodeChar? tail = none)
    (hText : ∀ c rest, View.chars.next? text = some (c, rest) → 0x80 ≤ c.toNat) :
    ∀ b left, View.bytes.next? bytes = some (b, left) → 0x80 ≤ b.toNat := by
  intro b left hNext
  cases text with
  | nil =>
    -- the byte is the first one of the tail
    by_contra hAscii
    obtain rfl : bytes = tail := h
    obtain rfl : bytes = b :: left := (View.bytes.next?_eq_some hNext).1
    exact Utf8.decodeChar?_ne_none (by omega) left hTail
  | cons c rest =>
    obtain ⟨b', more, hChar, hByte⟩ := Utf8.utf8EncodeChar_eq_cons (hText c rest rfl)
    rw [h, View.toBytes, Utf8.encode_cons, hChar] at hNext
    cases hNext
    exact hByte

/-- A fixed text stands at the front of a text exactly when its bytes stand at the front of the
bytes, and what follows is spelled by what follows. -/
theorem Spells.afterOpening? (h : Spells .chars tail text bytes)
    (hTail : Utf8.decodeChar? tail = none) (opening : List Char) :
    Option.Rel (Spells .chars tail) (Text.afterOpening? opening text)
      (Text.afterOpening? (Utf8.encode opening) bytes) := by
  obtain rfl : bytes = Utf8.encode text ++ tail := h
  cases hText : Text.afterOpening? opening text with
  | some rest =>
    have hBytes : Utf8.encode text ++ tail =
        Utf8.encode opening ++ (Utf8.encode rest ++ tail) := by
      rw [Text.afterOpening?_eq_some_iff.1 hText, Utf8.encode_append, List.append_assoc]
    rw [Text.afterOpening?_eq_some_iff.2 hBytes]
    exact .some rfl
  | none =>
    cases hBytes : Text.afterOpening? (Utf8.encode opening) (Utf8.encode text ++ tail) with
    | none => exact .none
    | some left =>
      -- the longest texts that the bytes start with are the same
      have hSplit := congrArg Utf8.splitText (Text.afterOpening?_eq_some_iff.1 hBytes)
      rw [Utf8.splitText_encode_append text hTail, Utf8.splitText_append] at hSplit
      rw [Text.afterOpening?_eq_some_iff.2 (congrArg Prod.fst hSplit)] at hText
      cases hText

end View

/-! ## Runs -/

/-- A test of scalars and a test of bytes that answer alike on ASCII, and refuse everything else. -/
structure AsciiTest where
  onChars : Test .chars
  onBytes : Test .bytes
  onChars_refuses : ∀ c : Char, 0x80 ≤ c.toNat → onChars c = .ok false
  onBytes_refuses : ∀ b : UInt8, 0x80 ≤ b.toNat → onBytes b = .ok false
  agree : ∀ c b, SameAscii c b → onChars c = onBytes b

namespace AsciiTest

/-- The test of the character that a token stands for. -/
def ofCharacter (accepts : Option Char → Bool)
    (h : ∀ c : Char, accepts (some c) = true → c.toNat < 0x80) : AsciiTest where
  onChars := Test.ofPred fun token => accepts (View.chars.character? token)
  onBytes := Test.ofPred fun token => accepts (View.bytes.character? token)
  onChars_refuses := fun c hc =>
    congrArg Except.ok (Bool.eq_false_iff.2 fun hAccepts => Nat.not_lt_of_le hc (h c hAccepts))
  onBytes_refuses := fun b hb =>
    congrArg Except.ok (Bool.eq_false_iff.2 fun hAccepts => by
      have hAscii := h _ hAccepts
      rw [Utf8.toNat_ofNat_toNat] at hAscii
      omega)
  agree := fun c b hSame => by
    simp only [Test.ofPred, hSame.character?_eq]

/-- The minus sign. -/
def minus : AsciiTest :=
  ofCharacter (· == some '-') fun c hc => by
    rw [Option.some.inj (eq_of_beq hc)]
    decide

/-- The decimal digits. -/
def decimalDigit : AsciiTest :=
  ofCharacter (·.any Char.isDigit) fun c hc => by
    simp only [Option.any_some, Char.isDigit, Bool.and_eq_true, decide_eq_true_eq] at hc
    exact Nat.lt_of_le_of_lt hc.2 (by decide)

end AsciiTest

/-! ### ASCII runs and their bytes -/

section Runs

open List (Forall₂)

variable {cs : List Char} {bs : List UInt8}

theorem toBytes_of_sameAscii (h : Forall₂ SameAscii cs bs) :
    View.chars.toBytes (View.chars.textOf cs) = View.bytes.textOf bs := by
  induction h with
  | nil => rfl
  | @cons c b cs bs hSame hMore ih =>
    calc View.chars.toBytes (View.chars.textOf (c :: cs))
        = String.utf8EncodeChar c ++ View.chars.toBytes (View.chars.textOf cs) := rfl
      _ = View.bytes.textOf (b :: bs) := by
        rw [hSame.encode_eq, ih]
        rfl

theorem filterMap_of_sameAscii (h : Forall₂ SameAscii cs bs) :
    cs.filterMap View.chars.character? = bs.filterMap View.bytes.character? := by
  induction h with
  | nil => rfl
  | cons hSame hMore ih =>
    rw [List.filterMap_cons, List.filterMap_cons, hSame.character?_eq, ih]

end Runs

/-! ## Reading in lockstep -/

section Reading

open Step (Lockstep)
open List (Forall₂)

variable {α : Type} {tail : List UInt8} (hTail : Utf8.decodeChar? tail = none)
include hTail

/-- Runs of ASCII characters are read in lockstep, and are as long. -/
theorem AsciiTest.lockstep_takeRun (test : AsciiTest) (limit : Option Nat) :
    Lockstep (View.chars.Spells tail) (Forall₂ SameAscii) (takeRun test.onChars limit)
      (takeRun test.onBytes limit) := by
  intro text
  induction text generalizing limit with
  | nil =>
    intro bytes h
    have hStop := h.not_ascii hTail fun c rest hNext => by cases hNext
    rw [takeRun_of_none rfl,
      takeRun_of_stop fun b left hNext => test.onBytes_refuses b (hStop b left hNext)]
    exact .done .nil h
  | cons c text ih =>
    intro bytes h
    by_cases hLimit : limit = some 0
    · rw [hLimit, takeRun_zero, takeRun_zero]
      exact .done .nil h
    by_cases hAscii : c.toNat < 0x80
    · obtain ⟨b, left, rfl, hSame, hLeft⟩ := h.of_ascii hAscii
      have hAgree := test.agree c b hSame
      cases hTest : test.onBytes b with
      | error fault =>
        rw [takeRun_of_error hLimit rfl (hAgree.trans hTest), takeRun_of_error hLimit rfl hTest]
        exact .aborted
      | ok accepted =>
        cases accepted with
        | false =>
          rw [takeRun_of_refused rfl (hAgree.trans hTest), takeRun_of_refused rfl hTest]
          exact .done .nil h
        | true =>
          rw [takeRun_of_accepted hLimit rfl (hAgree.trans hTest),
            takeRun_of_accepted hLimit rfl hTest]
          exact (ih _ left hLeft).map fun _ _ hMore => .cons hSame hMore
    · have hRefused : ∀ c' rest, View.chars.next? (c :: text) = some (c', rest) →
          0x80 ≤ c'.toNat := by
        intro c' rest hNext
        cases hNext
        exact Nat.le_of_not_lt hAscii
      have hStop := h.not_ascii hTail hRefused
      rw [takeRun_of_stop fun c' rest hNext => test.onChars_refuses c' (hRefused c' rest hNext),
        takeRun_of_stop fun b left hNext => test.onBytes_refuses b (hStop b left hNext)]
      exact .done .nil h

theorem AsciiTest.lockstep_readRun (test : AsciiTest) (bounds : Bounds) :
    Lockstep (View.chars.Spells tail) (fun run run' => View.chars.toBytes run = run')
      (readRun test.onChars bounds) (readRun test.onBytes bounds) := by
  intro text bytes h
  unfold readRun
  have hRun := test.lockstep_takeRun hTail bounds.most text bytes h
  generalize takeRun test.onChars bounds.most text = outcome,
    takeRun test.onBytes bounds.most bytes = outcome' at hRun ⊢
  cases hRun with
  | done hTokens hLeft =>
    simp only [hTokens.length_eq]
    split
    · exact .done (toBytes_of_sameAscii hTokens) hLeft
    · exact .failed h
  | failed hLeft => exact .failed h
  | aborted => exact .aborted

theorem lockstep_takeNumeral :
    Lockstep (View.chars.Spells tail) Eq (takeNumeral .chars) (takeNumeral .bytes) := by
  have hSign := AsciiTest.minus.lockstep_takeRun hTail (some 1)
  have hDigits := AsciiTest.decimalDigit.lockstep_takeRun hTail none
  refine (hSign.andThen hDigits (fun _ _ _ _ hStart _ => hStart)
    (X := fun p q => Forall₂ SameAscii p.1 q.1 ∧ Forall₂ SameAscii p.2 q.2)
    fun _ _ _ _ hSign hDigits => ⟨hSign, hDigits⟩).map ?_
  rintro ⟨sign, digits⟩ ⟨sign', digits'⟩ ⟨hSign, hDigits⟩
  simp only [List.filterMap_append, filterMap_of_sameAscii hSign, filterMap_of_sameAscii hDigits]

theorem lockstep_readNumber (form : NumberForm α) :
    Lockstep (View.chars.Spells tail) Eq (readNumber .chars form) (readNumber .bytes form) := by
  intro text bytes h
  unfold readNumber
  have hNumeral := lockstep_takeNumeral hTail text bytes h
  generalize takeNumeral .chars text = outcome, takeNumeral .bytes bytes = outcome' at hNumeral ⊢
  cases hNumeral with
  | @done numeral _ rest left hEq hLeft =>
    subst hEq
    cases hRead : form.read? numeral with
    | some value =>
      simp only [hRead]
      exact .done rfl hLeft
    | none =>
      simp only [hRead]
      exact .failed h
  | failed hLeft => exact .failed h
  | aborted => exact .aborted

theorem lockstep_readLiteral (literal : List Char) :
    Lockstep (View.chars.Spells tail) Eq (readLiteral (v := .chars) literal)
      (readLiteral (v := .bytes) (Utf8.encode literal)) := by
  intro text bytes h
  unfold readLiteral
  have hRest := h.afterOpening? hTail literal
  generalize Text.afterOpening? literal text = found,
    Text.afterOpening? (Utf8.encode literal) bytes = found' at hRest ⊢
  cases hRest with
  | some hRest => exact .done rfl hRest
  | none => exact .failed h

theorem lockstep_readLineEnd :
    Lockstep (View.chars.Spells tail) Eq (readLineEnd .chars) (readLineEnd .bytes) :=
  (lockstep_readLiteral hTail ['\r', '\n']).orElse (lockstep_readLiteral hTail ['\n'])

end Reading

/-! ## Writing in lockstep -/

section Writing

variable {α : Type}

theorem related_append (text : List Char) :
    (append (v := .chars) text []).Related (View.chars.Spells []) Eq
      (append (v := .bytes) (Utf8.encode text) []) :=
  .done rfl (View.chars.spells_nil text)

theorem related_writeNumber (form : NumberForm α) (value : α) :
    (writeNumber .chars form value []).Related (View.chars.Spells []) Eq
      (writeNumber .bytes form value []) := by
  unfold writeNumber
  split
  · split
    · exact related_append _
    · exact related_failed_nil
  · exact related_failed_nil

theorem AsciiTest.related_writeRun (test : AsciiTest) (bounds : Bounds) (run : List Char) :
    (writeRun test.onChars bounds run []).Related (View.chars.Spells []) Eq
      (writeRun test.onBytes bounds (Utf8.encode run) []) := by
  unfold writeRun
  have hRun := test.lockstep_takeRun Utf8.decodeChar?_nil none run _ (View.chars.spells_nil run)
  rw [View.toBytes] at hRun
  generalize takeRun test.onChars none run = outcome,
    takeRun test.onBytes none (Utf8.encode run) = outcome' at hRun ⊢
  cases hRun with
  | done hTokens hLeft =>
    simp only [hTokens.length_eq, hLeft.isEmpty_eq]
    split
    · exact related_append run
    · exact related_failed_nil
  | failed hLeft => exact related_failed_nil
  | aborted => exact .aborted

end Writing

/-! ## Grammars -/

namespace Grammar.SpelledBy

variable {α : Type}

theorem literal (text : List Char) :
    SpelledBy Eq (.literal text : Grammar .chars Unit) (.literal (Utf8.encode text)) where
  read := fun _ hTail => lockstep_readLiteral hTail text
  write := fun _ _ _ => related_append text

theorem lineEnd : SpelledBy Eq (.lineEnd : Grammar .chars Unit) .lineEnd where
  read := fun _ hTail => lockstep_readLineEnd hTail
  write := fun _ _ _ => related_append ['\n']

theorem number (form : NumberForm α) :
    SpelledBy Eq (.number form rfl : Grammar .chars α) (.number form rfl) where
  read := fun _ hTail => lockstep_readNumber hTail form
  write := by
    rintro value _ rfl
    exact related_writeNumber form value

theorem run (test : AsciiTest) (bounds : Bounds) :
    SpelledBy (fun run run' => View.chars.toBytes run = run') (.run test.onChars bounds)
      (.run test.onBytes bounds) where
  read := fun _ hTail => test.lockstep_readRun hTail bounds
  write := by
    rintro run _ rfl
    exact test.related_writeRun bounds run

end Grammar.SpelledBy

end TwoWay
