import TwoWay.Proofs.Bridge.Composition
import TwoWay.Proofs.Bridge.WellFormed

/-!
# What is left of the bytes of a text

A step on bytes that is run on a text may stop anywhere, and a bridge looks at nothing but the place
where it stopped. That is enough: no byte that goes on with a scalar starts one, so an end of the
bytes of a text is well formed exactly when it starts where a scalar does, and it is then spelled by
an end of the text.

* `Utf8.suffix_of_encode_suffix`: a text whose bytes end the bytes of another is an end of it.
* `View.lastBytes?_eq_some_iff`: the end of a text that has as many bytes as are left is the text
  that they spell.
* `Step.ReadsText`, `Step.WritesText`: a step on a text is done when one on its bytes is done with
  bytes that are a text.
* `Bridge.bytes_leave_text`: every bridge from bytes to a text makes such steps.
-/

namespace TwoWay

/-! ## Bytes that go on with a scalar -/

namespace Utf8

/-- The byte stands in a scalar behind its first. -/
def Continues (b : UInt8) : Prop := InRange (0x80, 0xBF) b

/-- In every row of the table the first range keeps clear of the bytes that continue a scalar, and
the others are within them. -/
theorem sequences_ranges :
    ∀ row ∈ sequences, row ≠ [] ∧ (∀ range ∈ row.head?, range.2 < 0x80 ∨ 0xBF < range.1) ∧
      ∀ range ∈ row.tail, 0x80 ≤ range.1 ∧ range.2 ≤ 0xBF := by
  decide

theorem continues_of_ranges {ranges : List (Nat × Nat)} {bytes : List UInt8}
    (hRanges : ∀ range ∈ ranges, 0x80 ≤ range.1 ∧ range.2 ≤ 0xBF)
    (h : List.Forall₂ InRange ranges bytes) : ∀ b ∈ bytes, Continues b := by
  induction h with
  | nil => simp
  | cons hByte hMore ih =>
    rw [List.forall_mem_cons] at hRanges ⊢
    obtain ⟨⟨hLeast, hGreatest⟩, hOthers⟩ := hRanges
    exact ⟨⟨Nat.le_trans hLeast hByte.1, Nat.le_trans hByte.2 hGreatest⟩, ih hOthers⟩

/-- A sequence is a byte that continues no scalar, with bytes that do. -/
theorem IsSequence.exists_cons {bytes : List UInt8} (h : IsSequence bytes) :
    ∃ first more, bytes = first :: more ∧ ¬ Continues first ∧ ∀ b ∈ more, Continues b := by
  obtain ⟨row, hRow, hBytes⟩ := h
  obtain ⟨hNonempty, hFirst, hMore⟩ := sequences_ranges row hRow
  cases hBytes with
  | nil => exact absurd rfl hNonempty
  | @cons range first ranges more hByte hBytes =>
    refine ⟨first, more, rfl, ?_, continues_of_ranges hMore hBytes⟩
    have hClear := hFirst range rfl
    unfold Continues InRange at *
    omega

theorem WellFormed.not_continues {first : UInt8} {more : List UInt8}
    (h : WellFormed (first :: more)) : ¬ Continues first := by
  generalize hBytes : first :: more = bytes at h
  cases h with
  | nil => cases hBytes
  | cons hSequence hRest =>
    obtain ⟨lead, others, rfl, hLead, -⟩ := hSequence.exists_cons
    obtain ⟨rfl, -⟩ := List.cons.inj hBytes
    exact hLead

/-- Bytes that start inside a scalar are not well formed. -/
theorem not_wellFormed_of_inside {c : Char} {lead b : UInt8} {front part rest : List UInt8}
    (h : String.utf8EncodeChar c = lead :: front ++ b :: part) :
    ¬ WellFormed (b :: part ++ rest) := by
  obtain ⟨first, more, hBytes, -, hMore⟩ := (isSequence_utf8EncodeChar c).exists_cons
  rw [hBytes, List.cons_append, List.cons.injEq] at h
  have hContinues : Continues b := hMore b (by simp [h.2])
  exact fun hStart => hStart.not_continues hContinues

/-! ## Ends of the bytes of a text -/

theorem encode_inj {s t : List Char} (h : encode s = encode t) : s = t := by
  have hRead := congrArg decode? h
  rw [decode?_encode, decode?_encode] at hRead
  exact Option.some.inj hRead

/-- **A text whose bytes end the bytes of another is an end of it.** -/
theorem suffix_of_encode_suffix {rest text : List Char} (h : encode rest <:+ encode text) :
    rest <:+ text := by
  induction text with
  | nil =>
    rw [encode_nil, List.suffix_nil, ← encode_nil] at h
    obtain rfl := encode_inj h
    exact List.suffix_rfl
  | cons c text ih =>
    obtain ⟨front, hFront⟩ := h
    rw [encode_cons] at hFront
    rcases List.append_eq_append_iff.1 hFront with ⟨part, hScalar, hRest⟩ | ⟨before, -, hText⟩
    · -- the bytes left start inside the first scalar, or at one of its ends
      cases part with
      | nil => exact (ih ⟨[], hRest⟩).trans (List.suffix_cons c text)
      | cons b part =>
        cases front with
        | nil =>
          rw [List.nil_append, ← encode_cons] at hFront
          obtain rfl := encode_inj hFront
          exact List.suffix_rfl
        | cons lead front =>
          have hStart := wellFormed_encode rest
          rw [hRest] at hStart
          exact absurd hStart (not_wellFormed_of_inside hScalar)
    · exact (ih ⟨before, hText.symm⟩).trans (List.suffix_cons c text)

theorem decode?_eq_none_iff {bytes : List UInt8} : decode? bytes = none ↔ ¬ WellFormed bytes := by
  rw [Option.eq_none_iff_forall_ne_some, wellFormed_iff, not_exists]
  simp only [ne_eq, decode?_eq_some_iff]

end Utf8

namespace View

variable {v : View} {text rest : v.Text}

theorem suffix_of_toBytes_suffix (h : v.toBytes rest <:+ v.toBytes text) : rest <:+ text := by
  cases v with
  | chars | graphemes => exact Utf8.suffix_of_encode_suffix h
  | bytes | sharedBytes => exact h

theorem toBytes_inj : v.toBytes text = v.toBytes rest ↔ text = rest := by
  refine ⟨fun h => ?_, congrArg v.toBytes⟩
  cases v with
  | chars | graphemes => exact Utf8.encode_inj h
  | bytes | sharedBytes => exact h

/-- **The end of a text with as many bytes as are left is the text that these spell.** -/
theorem lastBytes?_eq_some_iff {left : List UInt8} (hLeft : left <:+ v.toBytes text) :
    v.lastBytes? text left.length = some rest ↔ v.toBytes rest = left := by
  constructor
  · intro h
    obtain ⟨⟨front, back⟩, hCut, rfl⟩ := Option.map_eq_some_iff.1 h
    obtain ⟨rfl, hSize⟩ := v.eq_append_of_cut? hCut
    have hLe := hLeft.length_le
    rw [length_toBytes, size_append] at hLe
    rw [size_append] at hSize
    rw [toBytes_append] at hLeft
    have hLength : (v.toBytes back).length = left.length := by
      rw [length_toBytes]
      omega
    have hSuffix : v.toBytes back <:+ left :=
      List.suffix_of_suffix_length_le (List.suffix_append _ _) hLeft (Nat.le_of_eq hLength)
    exact hSuffix.eq_of_length hLength
  · rintro rfl
    rw [length_toBytes]
    exact lastBytes?_of_suffix v (suffix_of_toBytes_suffix hLeft)

end View

/-! ## Outcomes on bytes and on a text -/

/-- What a reading of a text comes to, by what one of its bytes comes to: it leaves the text that
the other leaves. Where that leaves no text, or fails, it fails at its start. -/
inductive Outcome.ReadsAs {α : Type} (v : View) (start : v.Text) :
    Outcome (List UInt8) α → Outcome v.Text α → Prop
  | text {a : α} {rest : v.Text} : ReadsAs v start (.done a (v.toBytes rest)) (.done a rest)
  | noText {a : α} {left : List UInt8} (h : ¬ Utf8.WellFormed left) :
      ReadsAs v start (.done a left) (.failed .parse start)
  | failed {failure : Failure} {left : List UInt8} :
      ReadsAs v start (.failed failure left) (.failed .parse start)
  | aborted {fault : Fault} : ReadsAs v start (.aborted fault) (.aborted fault)

/-- What a writing of a text comes to, by what one of bytes comes to on its own: it appends the text
that the other writes. Where that writes no text, or fails, the buffer is as it was. -/
inductive Outcome.WritesAs (v : View) (buffer : v.Text) :
    Outcome (List UInt8) Unit → Outcome v.Text Unit → Prop
  | text {text : v.Text} : WritesAs v buffer (.done () (v.toBytes text)) (.done () (buffer ++ text))
  | noText {bytes : List UInt8} (h : ¬ Utf8.WellFormed bytes) :
      WritesAs v buffer (.done () bytes) (.failed .print buffer)
  | failed {failure : Failure} {left : List UInt8} :
      WritesAs v buffer (.failed failure left) (.failed failure buffer)
  | aborted {fault : Fault} : WritesAs v buffer (.aborted fault) (.aborted fault)

section Bridges

open Outcome (ReadsAs WritesAs)

variable {v : View} {α : Type} (bridge : Bridge .bytes v)
include bridge

theorem Bridge.wellFormed_iff {bytes : List UInt8} :
    Utf8.WellFormed bytes ↔ ∃ text, v.toBytes text = bytes := by
  cases bridge with
  | bytesToGraphemes | bytesToChars => exact Utf8.wellFormed_iff

/-! ### Reading -/

/-- A reading by bytes asks for the end of the text with as many bytes as are left. -/
theorem Bridge.read_bytes (p : Step (List UInt8) α) (text : v.Text) :
    bridge.read p text =
      match p (v.toBytes text) with
      | .done a left => (v.lastBytes? text left.length).elim (.failed .parse text) (.done a)
      | .failed failure left =>
        (v.lastBytes? text left.length).elim (.failed .parse text) (.failed failure)
      | .aborted fault => .aborted fault := by
  cases bridge with
  | bytesToGraphemes | bytesToChars =>
    simp only [read, readBytesOnText, View.toBytes]
    cases p (Utf8.encode text) with
    | done a left | failed failure left => simp only; split <;> simp [*]
    | aborted fault => rfl

theorem Bridge.readsAs {p : Step (List UInt8) α} (hAdvances : p.Advances)
    (hRestores : p.Restores .parse) (text : v.Text) :
    ReadsAs v text (p (v.toBytes text)) (bridge.read p text) := by
  rw [bridge.read_bytes]
  cases hRead : p (v.toBytes text) with
  | done a left =>
    have hLeft := hAdvances _ _ _ hRead
    cases hFound : v.lastBytes? text left.length with
    | some rest =>
      obtain rfl := (View.lastBytes?_eq_some_iff hLeft).1 hFound
      simp only [hFound]
      exact .text
    | none =>
      simp only [hFound]
      refine .noText fun hText => ?_
      obtain ⟨rest, hRest⟩ := bridge.wellFormed_iff.1 hText
      rw [(View.lastBytes?_eq_some_iff hLeft).2 hRest] at hFound
      cases hFound
  | failed failure left =>
    obtain ⟨rfl, rfl⟩ := hRestores _ _ _ hRead
    simp only [(View.lastBytes?_eq_some_iff List.suffix_rfl).2 rfl]
    exact .failed
  | aborted fault => exact .aborted

namespace Outcome.ReadsAs

variable {start : v.Text} {o : Outcome (List UInt8) α} {o' : Outcome v.Text α}
  (h : ReadsAs v start o o')
include h

theorem eq_done_iff {a : α} {rest : v.Text} :
    o' = .done a rest ↔ o = .done a (v.toBytes rest) := by
  cases h with
  | text => simp [View.toBytes_inj]
  | @noText b left h =>
    have hRest : left ≠ v.toBytes rest :=
      fun hRest => h (bridge.wellFormed_iff.2 ⟨rest, hRest.symm⟩)
    simp [hRest]
  | failed | aborted => simp

theorem eq_failed_iff {failure : Failure} {left : v.Text} :
    o' = .failed failure left ↔
      (failure = .parse ∧ left = start) ∧
        ((∃ found stopped, o = .failed found stopped) ∨
          ∃ a stopped, o = .done a stopped ∧ ¬ Utf8.WellFormed stopped) := by
  cases h with
  | text => simp [bridge.wellFormed_iff]
  | noText h => simp [h, eq_comm]
  | failed => simp [eq_comm]
  | aborted => simp

omit bridge in
theorem eq_aborted_iff {fault : Fault} : o' = .aborted fault ↔ o = .aborted fault := by
  cases h with
  | text | noText | failed | aborted => simp

end Outcome.ReadsAs

/-! ### Writing -/

theorem Bridge.writesAs (p : Step (List UInt8) Unit) (buffer : v.Text) :
    WritesAs v buffer (p []) (bridge.write p buffer) := by
  cases bridge with
  | bytesToGraphemes | bytesToChars =>
    rw [write, writeBytesOnText]
    cases p [] with
    | done _ bytes =>
      cases hText : Utf8.decode? bytes with
      | some text =>
        obtain rfl := Utf8.encode_of_decode? hText
        simp only [hText]
        exact .text
      | none =>
        simp only [hText]
        exact .noText (Utf8.decode?_eq_none_iff.1 hText)
    | failed failure left => exact .failed
    | aborted fault => exact .aborted

namespace Outcome.WritesAs

variable {buffer : v.Text} {o : Outcome (List UInt8) Unit} {o' : Outcome v.Text Unit}
  (h : WritesAs v buffer o o')
include h

theorem eq_done_iff {written : v.Text} :
    o' = .done () written ↔ ∃ text, o = .done () (v.toBytes text) ∧ written = buffer ++ text := by
  cases h with
  | text => simp [View.toBytes_inj, eq_comm]
  | @noText bytes h =>
    have hText : ∀ text, bytes ≠ v.toBytes text :=
      fun text hText => h (bridge.wellFormed_iff.2 ⟨text, hText.symm⟩)
    simp [hText]
  | failed | aborted => simp

theorem eq_failed_iff {failure : Failure} {left : v.Text} :
    o' = .failed failure left ↔
      left = buffer ∧ ((∃ stopped, o = .failed failure stopped) ∨
        failure = .print ∧ ∃ bytes, o = .done () bytes ∧ ¬ Utf8.WellFormed bytes) := by
  cases h with
  | text => simp [bridge.wellFormed_iff]
  | noText h => simp [h, eq_comm, and_comm]
  | failed => simp [eq_comm, and_comm]
  | aborted => simp

omit bridge in
theorem eq_aborted_iff {fault : Fault} : o' = .aborted fault ↔ o = .aborted fault := by
  cases h with
  | text | noText | failed | aborted => simp

end Outcome.WritesAs

end Bridges

/-! ## All this for every bridge -/

namespace Step

variable {α : Type}

/-- A step on a text reads by one on its bytes. It is done with the text that the other leaves, if
what that leaves is a text. If it is not, or if the other fails, it fails where it started. -/
structure ReadsText (v : View) (p : Step (List UInt8) α) (q : Step v.Text α) : Prop where
  done_iff : ∀ text a rest,
    q text = .done a rest ↔ p (v.toBytes text) = .done a (v.toBytes rest)
  exists_done_iff : ∀ text a, (∃ rest, q text = .done a rest) ↔
    ∃ left, p (v.toBytes text) = .done a left ∧ Utf8.WellFormed left
  failed_iff : ∀ text failure left, q text = .failed failure left ↔
    (failure = .parse ∧ left = text) ∧
      ((∃ found stopped, p (v.toBytes text) = .failed found stopped) ∨
        ∃ a stopped, p (v.toBytes text) = .done a stopped ∧ ¬ Utf8.WellFormed stopped)
  aborted_iff : ∀ text fault, q text = .aborted fault ↔ p (v.toBytes text) = .aborted fault

/-- A step on a text writes by one on bytes. It appends the text that the other writes on its own,
if that is a text. If it is not, or if the other fails, it fails and the buffer is as it was. -/
structure WritesText (v : View) (p : Step (List UInt8) Unit) (q : Step v.Text Unit) : Prop where
  done_iff : ∀ buffer written, q buffer = .done () written ↔
    ∃ text, p [] = .done () (v.toBytes text) ∧ written = buffer ++ text
  exists_done_iff : ∀ buffer, (∃ written, q buffer = .done () written) ↔
    ∃ bytes, p [] = .done () bytes ∧ Utf8.WellFormed bytes
  failed_iff : ∀ buffer failure left, q buffer = .failed failure left ↔
    left = buffer ∧ ((∃ stopped, p [] = .failed failure stopped) ∨
      failure = .print ∧ ∃ bytes, p [] = .done () bytes ∧ ¬ Utf8.WellFormed bytes)
  aborted_iff : ∀ buffer fault, q buffer = .aborted fault ↔ p [] = .aborted fault

end Step

namespace Bridge

open Step (ReadsText WritesText)

variable {v : View} {α : Type} (bridge : Bridge .bytes v)

theorem readsText {p : Step (List UInt8) α} (hAdvances : p.Advances)
    (hRestores : p.Restores .parse) : ReadsText v p (bridge.read p) where
  done_iff text _ _ := (bridge.readsAs hAdvances hRestores text).eq_done_iff bridge
  exists_done_iff text a := by
    simp only [(bridge.readsAs hAdvances hRestores text).eq_done_iff bridge, bridge.wellFormed_iff]
    constructor
    · rintro ⟨rest, hDone⟩
      exact ⟨_, hDone, rest, rfl⟩
    · rintro ⟨_, hDone, rest, rfl⟩
      exact ⟨rest, hDone⟩
  failed_iff text _ _ := (bridge.readsAs hAdvances hRestores text).eq_failed_iff bridge
  aborted_iff text _ := (bridge.readsAs hAdvances hRestores text).eq_aborted_iff

theorem writesText (p : Step (List UInt8) Unit) : WritesText v p (bridge.write p) where
  done_iff buffer _ := (bridge.writesAs p buffer).eq_done_iff bridge
  exists_done_iff buffer := by
    simp only [(bridge.writesAs p buffer).eq_done_iff bridge, bridge.wellFormed_iff]
    constructor
    · rintro ⟨_, text, hDone, rfl⟩
      exact ⟨_, hDone, text, rfl⟩
    · rintro ⟨_, hDone, text, rfl⟩
      exact ⟨_, text, hDone, rfl⟩
  failed_iff buffer _ _ := (bridge.writesAs p buffer).eq_failed_iff bridge
  aborted_iff buffer _ := (bridge.writesAs p buffer).eq_aborted_iff

/-- **Bytes are read and written on a text exactly when what is left, or written, is a text.** A
step on bytes that leaves ends of what it started with and puts back what it failed on is done on a
text when it leaves well-formed bytes, and leaves the text they spell. Where it stops inside a
scalar or fails, the text is left as it was. A writing step, whatever it does, writes on a text when
it writes well-formed bytes into a buffer of its own, and appends the text they spell. Every grammar
on bytes is made of such steps. -/
theorem bytes_leave_text :
    (∀ (α : Type) (p : Step (List UInt8) α), p.Advances → p.Restores .parse →
      ReadsText v p (bridge.read p)) ∧
    (∀ p : Step (List UInt8) Unit, WritesText v p (bridge.write p)) ∧
    ∀ (α : Type) (grammar : Grammar .bytes α),
      ReadsText v grammar.parse (Grammar.across bridge grammar).parse ∧
        ∀ value, WritesText v (grammar.print value) ((Grammar.across bridge grammar).print value) :=
  ⟨fun _ _ hAdvances hRestores => bridge.readsText hAdvances hRestores, bridge.writesText,
    fun _ grammar => ⟨bridge.readsText grammar.advances_parse grammar.restores_parse,
      fun value => bridge.writesText (grammar.print value)⟩⟩

/-- One byte of an accented letter is read and then written, a byte that is a letter of its own, and
both bytes of the accented letter. Then a test does not answer. -/
theorem bytes_leave_text_accent :
    let first : Grammar .bytes UInt8 := .token
    let both : Grammar .bytes (List UInt8) := .run (.ofPred (0x80 ≤ ·)) (.orMore 1)
    let asked : Grammar .bytes (List UInt8) := .run (fun _ => .error .radix) (.orMore 1)
    first.parse.Advances ∧ first.parse.Restores .parse ∧
      first.parse (Utf8.encode ['é', 't']) = .done 0xC3 [0xA9, 0x74] ∧
      ¬ Utf8.WellFormed [0xA9, 0x74] ∧
      bytesToChars.read first.parse ['é', 't'] = .failed .parse ['é', 't'] ∧
      bytesToChars.write (first.print 0xC3) ['t'] = .failed .print ['t'] ∧
      (∃ rest, bytesToChars.read first.parse ['t'] = .done 0x74 rest) ∧
      (∃ written, bytesToChars.write (first.print 0x74) ['é'] = .done () written) ∧
      (Grammar.across bytesToGraphemes both).parse ['é', 't'] = .done [0xC3, 0xA9] ['t'] ∧
      (Grammar.across bytesToGraphemes both).print [0xC3, 0xA9] ['t'] = .done () ['t', 'é'] ∧
      (Grammar.across bytesToGraphemes asked).parse ['t'] = .aborted .radix ∧
      (Grammar.across bytesToGraphemes asked).print [0x74] ['é'] = .aborted .radix := by
  intro first both asked
  have hStop : first.parse (Utf8.encode ['é', 't']) = .done 0xC3 [0xA9, 0x74] := by decide +kernel
  have hLeft : ¬ Utf8.WellFormed [0xA9, 0x74] := Utf8.decode?_eq_none_iff.1 (by decide +kernel)
  have hByte : ¬ Utf8.WellFormed [0xC3] := Utf8.decode?_eq_none_iff.1 (by decide +kernel)
  obtain ⟨hRead, hWrite, -⟩ := bytes_leave_text bytesToChars
  obtain ⟨-, -, hGrammar⟩ := bytes_leave_text bytesToGraphemes
  have hFirst := hRead _ first.parse first.advances_parse first.restores_parse
  refine ⟨first.advances_parse, first.restores_parse, hStop, hLeft, ?_, ?_, ?_, ?_, ?_, ?_, ?_, ?_⟩
  · exact (hFirst.failed_iff _ _ _).2 ⟨⟨rfl, rfl⟩, Or.inr ⟨0xC3, _, hStop, hLeft⟩⟩
  · exact ((hWrite (first.print 0xC3)).failed_iff _ _ _).2 ⟨rfl, Or.inr ⟨rfl, [0xC3], rfl, hByte⟩⟩
  · exact (hFirst.exists_done_iff _ _).2 ⟨_, by decide +kernel, Utf8.wellFormed_encode []⟩
  · exact ((hWrite (first.print 0x74)).exists_done_iff _).2 ⟨_, rfl, Utf8.wellFormed_encode ['t']⟩
  · exact ((hGrammar _ both).1.done_iff _ _ _).2 (by decide +kernel)
  · exact (((hGrammar _ both).2 [0xC3, 0xA9]).done_iff _ _).2 ⟨['é'], by decide +kernel, rfl⟩
  · exact ((hGrammar _ asked).1.aborted_iff _ _).2 (by decide +kernel)
  · exact (((hGrammar _ asked).2 [0x74]).aborted_iff _ _).2 (by decide +kernel)

end Bridge

end TwoWay
