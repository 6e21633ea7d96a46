import Mathlib.Data.List.Forall2
import TwoWay.Text.Utf8

/-!
# Well-formed UTF-8

Which bytes are well formed, said by a table of ranges and not by a way to read them: the bytes of
one scalar go through one of nine rows of ranges, and well-formed bytes fall into such sequences.
The second range of a row keeps out overlong forms, surrogates and what lies above U+10FFFF, and
every row asks for all its bytes.

* `Utf8.isSequence_iff`: the table holds exactly the encodings of the scalars.
* `Utf8.wellFormed_iff`: well-formed bytes are exactly the encodings of the texts.
-/

namespace TwoWay.Utf8

/-! ## The table -/

/-- The ranges that the bytes of one scalar go through. -/
def sequences : List (List (Nat × Nat)) :=
  [[(0x00, 0x7F)],
    [(0xC2, 0xDF), (0x80, 0xBF)],
    [(0xE0, 0xE0), (0xA0, 0xBF), (0x80, 0xBF)],
    [(0xE1, 0xEC), (0x80, 0xBF), (0x80, 0xBF)],
    [(0xED, 0xED), (0x80, 0x9F), (0x80, 0xBF)],
    [(0xEE, 0xEF), (0x80, 0xBF), (0x80, 0xBF)],
    [(0xF0, 0xF0), (0x90, 0xBF), (0x80, 0xBF), (0x80, 0xBF)],
    [(0xF1, 0xF3), (0x80, 0xBF), (0x80, 0xBF), (0x80, 0xBF)],
    [(0xF4, 0xF4), (0x80, 0x8F), (0x80, 0xBF), (0x80, 0xBF)]]

/-- The byte lies in the range. -/
def InRange (range : Nat × Nat) (b : UInt8) : Prop := range.1 ≤ b.toNat ∧ b.toNat ≤ range.2

/-- The bytes go through a row of the table. -/
def IsSequence (bytes : List UInt8) : Prop := ∃ row ∈ sequences, List.Forall₂ InRange row bytes

/-- Bytes that fall into sequences of the table. -/
inductive WellFormed : List UInt8 → Prop where
  | nil : WellFormed []
  | cons {sequence rest : List UInt8} (h : IsSequence sequence) (hRest : WellFormed rest) :
      WellFormed (sequence ++ rest)

/-! ## From bytes to a scalar -/

theorem toNat_val_ofNat {n : Nat} (h : n.isValidChar) : (Char.ofNat n).val.toNat = n := by
  rw [Char.ofNat, dif_pos h]
  rfl

theorem ofNat_eq {n : Nat} {b : UInt8} (h : n = b.toNat) : UInt8.ofNat n = b := by
  rw [h, UInt8.ofNat_toNat]

theorem exists_char_one {a : UInt8} (h : a.toNat ≤ 0x7F) :
    ∃ c, [a] = String.utf8EncodeChar c := by
  have hPoint := toNat_val_ofNat (n := a.toNat) (Or.inl (by omega))
  refine ⟨Char.ofNat a.toNat, ?_⟩
  rw [utf8EncodeChar_eq, hPoint, if_pos h, UInt8.ofNat_toNat]

theorem exists_char_two {a b : UInt8} (ha : InRange (0xC2, 0xDF) a) (hb : InRange (0x80, 0xBF) b) :
    ∃ c, [a, b] = String.utf8EncodeChar c := by
  unfold InRange at ha hb
  obtain ⟨n, hn⟩ : ∃ n, n = (a.toNat - 0xC0) * 64 + (b.toNat - 0x80) := ⟨_, rfl⟩
  have hPoint := toNat_val_ofNat (n := n) (Or.inl (by omega))
  refine ⟨Char.ofNat n, ?_⟩
  rw [utf8EncodeChar_eq, hPoint, if_neg (by omega), if_pos (by omega)]
  rw [ofNat_eq (b := a) (by omega), ofNat_eq (b := b) (by omega)]

/-- Three bytes spell a scalar if the point is neither spelled shorter nor a surrogate. -/
theorem exists_char_three {a b c : UInt8} {n : Nat} (ha : InRange (0xE0, 0xEF) a)
    (hb : InRange (0x80, 0xBF) b) (hc : InRange (0x80, 0xBF) c)
    (hn : n = (a.toNat - 0xE0) * 4096 + (b.toNat - 0x80) * 64 + (c.toNat - 0x80))
    (hLeast : 0x800 ≤ n) (hSurrogate : n < 0xD800 ∨ 0xDFFF < n) :
    ∃ d, [a, b, c] = String.utf8EncodeChar d := by
  unfold InRange at ha hb hc
  have hValid : n.isValidChar := hSurrogate.imp id fun h => ⟨h, by omega⟩
  have hPoint := toNat_val_ofNat hValid
  refine ⟨Char.ofNat n, ?_⟩
  rw [utf8EncodeChar_eq, hPoint, if_neg (by omega), if_neg (by omega), if_pos (by omega)]
  rw [ofNat_eq (b := a) (by omega), ofNat_eq (b := b) (by omega), ofNat_eq (b := c) (by omega)]

/-- Four bytes spell a scalar if the point is neither spelled shorter nor too large. -/
theorem exists_char_four {a b c d : UInt8} {n : Nat} (ha : InRange (0xF0, 0xF4) a)
    (hb : InRange (0x80, 0xBF) b) (hc : InRange (0x80, 0xBF) c) (hd : InRange (0x80, 0xBF) d)
    (hn : n = (a.toNat - 0xF0) * 262144 + (b.toNat - 0x80) * 4096 + (c.toNat - 0x80) * 64 +
      (d.toNat - 0x80))
    (hLeast : 0x10000 ≤ n) (hGreatest : n ≤ 0x10FFFF) :
    ∃ e, [a, b, c, d] = String.utf8EncodeChar e := by
  unfold InRange at ha hb hc hd
  have hValid : n.isValidChar := Or.inr ⟨by omega, by omega⟩
  have hPoint := toNat_val_ofNat hValid
  refine ⟨Char.ofNat n, ?_⟩
  rw [utf8EncodeChar_eq, hPoint, if_neg (by omega), if_neg (by omega), if_neg (by omega)]
  rw [ofNat_eq (b := a) (by omega), ofNat_eq (b := b) (by omega), ofNat_eq (b := c) (by omega),
    ofNat_eq (b := d) (by omega)]

/-- **Every sequence of the table spells a scalar.** -/
theorem exists_char_of_isSequence {bytes : List UInt8} (h : IsSequence bytes) :
    ∃ c, bytes = String.utf8EncodeChar c := by
  obtain ⟨row, hRow, hBytes⟩ := h
  simp only [sequences, List.mem_cons, List.not_mem_nil, or_false] at hRow
  rcases hRow with rfl | rfl | rfl | rfl | rfl | rfl | rfl | rfl | rfl
  · obtain - | ⟨ha, - | -⟩ := hBytes
    exact exists_char_one ha.2
  · obtain - | ⟨ha, - | ⟨hb, - | -⟩⟩ := hBytes
    exact exists_char_two ha hb
  all_goals unfold InRange at hBytes
  -- in three bytes, the second range keeps out overlong forms and surrogates
  · obtain - | ⟨ha, - | ⟨hb, - | ⟨hc, - | -⟩⟩⟩ := hBytes
    exact exists_char_three ⟨by omega, by omega⟩ ⟨by omega, by omega⟩ hc rfl (by omega) (by omega)
  · obtain - | ⟨ha, - | ⟨hb, - | ⟨hc, - | -⟩⟩⟩ := hBytes
    exact exists_char_three ⟨by omega, by omega⟩ hb hc rfl (by omega) (by omega)
  · obtain - | ⟨ha, - | ⟨hb, - | ⟨hc, - | -⟩⟩⟩ := hBytes
    exact exists_char_three ⟨by omega, by omega⟩ ⟨by omega, by omega⟩ hc rfl (by omega) (by omega)
  · obtain - | ⟨ha, - | ⟨hb, - | ⟨hc, - | -⟩⟩⟩ := hBytes
    exact exists_char_three ⟨by omega, by omega⟩ hb hc rfl (by omega) (by omega)
  -- in four bytes, it keeps out overlong forms and what is too large
  · obtain - | ⟨ha, - | ⟨hb, - | ⟨hc, - | ⟨hd, - | -⟩⟩⟩⟩ := hBytes
    exact exists_char_four ⟨by omega, by omega⟩ ⟨by omega, by omega⟩ hc hd rfl (by omega) (by omega)
  · obtain - | ⟨ha, - | ⟨hb, - | ⟨hc, - | ⟨hd, - | -⟩⟩⟩⟩ := hBytes
    exact exists_char_four ⟨by omega, by omega⟩ hb hc hd rfl (by omega) (by omega)
  · obtain - | ⟨ha, - | ⟨hb, - | ⟨hc, - | ⟨hd, - | -⟩⟩⟩⟩ := hBytes
    exact exists_char_four ⟨by omega, by omega⟩ ⟨by omega, by omega⟩ hc hd rfl (by omega) (by omega)

/-! ## From a scalar to bytes -/

theorem inRange_ofNat {least greatest n : Nat} (hByte : greatest < 256) (hLeast : least ≤ n)
    (hGreatest : n ≤ greatest) : InRange (least, greatest) (UInt8.ofNat n) := by
  unfold InRange
  rw [UInt8.toNat_ofNat', Nat.mod_eq_of_lt (by omega)]
  exact ⟨hLeast, hGreatest⟩

/-- The last six bits of a number, as a byte that continues a sequence. -/
theorem inRange_continuation (n : Nat) : InRange (0x80, 0xBF) (UInt8.ofNat (n % 64 + 128)) :=
  inRange_ofNat (by omega) (by omega) (by omega)

theorem isSequence_two {n : Nat} (hLeast : 0x80 ≤ n) (hGreatest : n ≤ 0x7FF) :
    IsSequence [UInt8.ofNat (n / 64 % 32 + 192), UInt8.ofNat (n % 64 + 128)] := by
  refine ⟨[(0xC2, 0xDF), (0x80, 0xBF)], by decide, ?_⟩
  exact .cons (inRange_ofNat (by omega) (by omega) (by omega)) (.cons (inRange_continuation n) .nil)

/-- The row of a point that is spelled in three bytes depends on its first byte. -/
theorem isSequence_three {n : Nat} (hLeast : 0x800 ≤ n) (hGreatest : n ≤ 0xFFFF)
    (hSurrogate : n < 0xD800 ∨ 0xDFFF < n) :
    IsSequence [UInt8.ofNat (n / 4096 % 16 + 224), UInt8.ofNat (n / 64 % 64 + 128),
      UInt8.ofNat (n % 64 + 128)] := by
  have hLast := inRange_continuation n
  have hMiddle := inRange_continuation (n / 64)
  rcases hSurrogate with hBelow | hAbove
  · by_cases hShort : n < 0x1000
    · refine ⟨[(0xE0, 0xE0), (0xA0, 0xBF), (0x80, 0xBF)], by decide, ?_⟩
      exact .cons (inRange_ofNat (by omega) (by omega) (by omega))
        (.cons (inRange_ofNat (by omega) (by omega) (by omega)) (.cons hLast .nil))
    · by_cases hLow : n < 0xD000
      · refine ⟨[(0xE1, 0xEC), (0x80, 0xBF), (0x80, 0xBF)], by decide, ?_⟩
        exact .cons (inRange_ofNat (by omega) (by omega) (by omega))
          (.cons hMiddle (.cons hLast .nil))
      · refine ⟨[(0xED, 0xED), (0x80, 0x9F), (0x80, 0xBF)], by decide, ?_⟩
        exact .cons (inRange_ofNat (by omega) (by omega) (by omega))
          (.cons (inRange_ofNat (by omega) (by omega) (by omega)) (.cons hLast .nil))
  · refine ⟨[(0xEE, 0xEF), (0x80, 0xBF), (0x80, 0xBF)], by decide, ?_⟩
    exact .cons (inRange_ofNat (by omega) (by omega) (by omega)) (.cons hMiddle (.cons hLast .nil))

theorem isSequence_four {n : Nat} (hLeast : 0x10000 ≤ n) (hGreatest : n ≤ 0x10FFFF) :
    IsSequence [UInt8.ofNat (n / 262144 % 8 + 240), UInt8.ofNat (n / 4096 % 64 + 128),
      UInt8.ofNat (n / 64 % 64 + 128), UInt8.ofNat (n % 64 + 128)] := by
  have hLast := inRange_continuation n
  have hThird := inRange_continuation (n / 64)
  have hSecond := inRange_continuation (n / 4096)
  by_cases hShort : n < 0x40000
  · refine ⟨[(0xF0, 0xF0), (0x90, 0xBF), (0x80, 0xBF), (0x80, 0xBF)], by decide, ?_⟩
    exact .cons (inRange_ofNat (by omega) (by omega) (by omega))
      (.cons (inRange_ofNat (by omega) (by omega) (by omega)) (.cons hThird (.cons hLast .nil)))
  · by_cases hLow : n < 0x100000
    · refine ⟨[(0xF1, 0xF3), (0x80, 0xBF), (0x80, 0xBF), (0x80, 0xBF)], by decide, ?_⟩
      exact .cons (inRange_ofNat (by omega) (by omega) (by omega))
        (.cons hSecond (.cons hThird (.cons hLast .nil)))
    · refine ⟨[(0xF4, 0xF4), (0x80, 0x8F), (0x80, 0xBF), (0x80, 0xBF)], by decide, ?_⟩
      exact .cons (inRange_ofNat (by omega) (by omega) (by omega))
        (.cons (inRange_ofNat (by omega) (by omega) (by omega)) (.cons hThird (.cons hLast .nil)))

/-- **Every scalar is spelled by a sequence of the table.** -/
theorem isSequence_utf8EncodeChar (c : Char) : IsSequence (String.utf8EncodeChar c) := by
  have hMax := toNat_lt_of_valid c
  have hSurrogate : c.val.toNat < 0xD800 ∨ 0xDFFF < c.val.toNat := c.valid.imp id And.left
  rw [utf8EncodeChar_eq]
  split
  · rename_i hOne
    exact ⟨[(0x00, 0x7F)], by decide, .cons (inRange_ofNat (by omega) (by omega) hOne) .nil⟩
  · split
    · rename_i hTwo
      exact isSequence_two (by omega) hTwo
    · split
      · rename_i hThree
        exact isSequence_three (by omega) hThree hSurrogate
      · exact isSequence_four (by omega) (by omega)

theorem isSequence_iff {bytes : List UInt8} :
    IsSequence bytes ↔ ∃ c, bytes = String.utf8EncodeChar c := by
  refine ⟨exists_char_of_isSequence, ?_⟩
  rintro ⟨c, rfl⟩
  exact isSequence_utf8EncodeChar c

/-! ## Texts -/

theorem wellFormed_encode (text : List Char) : WellFormed (encode text) := by
  induction text with
  | nil => exact .nil
  | cons c text ih => exact .cons (isSequence_utf8EncodeChar c) ih

/-- **Well-formed bytes are the bytes of a text.** -/
theorem wellFormed_iff {bytes : List UInt8} :
    WellFormed bytes ↔ ∃ text, encode text = bytes := by
  constructor
  · intro h
    induction h with
    | nil => exact ⟨[], rfl⟩
    | cons hSequence hRest ih =>
      obtain ⟨c, rfl⟩ := isSequence_iff.1 hSequence
      obtain ⟨text, rfl⟩ := ih
      exact ⟨c :: text, encode_cons c text⟩
  · rintro ⟨text, rfl⟩
    exact wellFormed_encode text

end TwoWay.Utf8
