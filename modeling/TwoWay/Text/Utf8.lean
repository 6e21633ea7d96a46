import TwoWay.Text.Opening

/-!
# UTF-8

Texts as byte strings. A byte string is read scalar by scalar: its first byte announces a code
point, and the scalar is accepted when its encoding is what stands there. Overlong forms,
surrogates, code points above U+10FFFF and truncated sequences are refused by that one test.

* `eq_of_decodeChar?`, `decodeChar?_utf8EncodeChar_append`: a scalar is read exactly where its
  encoding stands.
* `encode_splitText`: the text read off a byte string and the bytes after it make up the string.
* `decodeChar?_splitText`: no scalar can be read where the text ends, so it is the longest one.
* `decode?_eq_some_iff`: the byte strings that spell a text are its encoding.
-/

namespace TwoWay.Utf8

/-- The bytes of a text. -/
def encode (text : List Char) : List UInt8 := text.flatMap String.utf8EncodeChar

/-- The code point spelled by the payload of a leading byte and the low six bits of each byte that
continues it. -/
def codePoint (payload : Nat) (continuation : List UInt8) : Nat :=
  continuation.foldl (fun n b => n * 64 + b.toNat % 64) payload

/-- The code point that the first byte of a byte string announces. -/
def announced : List UInt8 → Nat
  | [] => 0
  | b :: rest =>
    if b < 0x80 then b.toNat
    else if b < 0xE0 then codePoint (b.toNat % 32) (rest.take 1)
    else if b < 0xF0 then codePoint (b.toNat % 16) (rest.take 2)
    else codePoint (b.toNat % 8) (rest.take 3)

/-- The scalar that a byte string starts with, and the bytes after it. -/
def decodeChar? (bytes : List UInt8) : Option (Char × List UInt8) :=
  let c := Char.ofNat (announced bytes)
  (Text.afterOpening? (String.utf8EncodeChar c) bytes).map fun rest => (c, rest)

theorem encode_nil : encode [] = [] := rfl

theorem encode_cons (c : Char) (text : List Char) :
    encode (c :: text) = String.utf8EncodeChar c ++ encode text := rfl

theorem encode_append (s t : List Char) : encode (s ++ t) = encode s ++ encode t := by
  simp [encode]

theorem eq_of_decodeChar? {bytes rest : List UInt8} {c : Char}
    (h : decodeChar? bytes = some (c, rest)) : bytes = String.utf8EncodeChar c ++ rest := by
  obtain ⟨found, hFound, hPair⟩ := Option.map_eq_some_iff.1 h
  cases hPair
  exact Text.afterOpening?_eq_some_iff.1 hFound

theorem length_lt_of_decodeChar? {bytes rest : List UInt8} {c : Char}
    (h : decodeChar? bytes = some (c, rest)) : rest.length < bytes.length := by
  have hPos := Char.utf8Size_pos c
  rw [eq_of_decodeChar? h, List.length_append, String.length_utf8EncodeChar]
  omega

/-! ## Reading what was encoded -/

theorem ofNat_lt_iff {m n : Nat} (hm : m < 256) (hn : n < 256) :
    UInt8.ofNat m < UInt8.ofNat n ↔ m < n := by
  rw [UInt8.lt_iff_toNat_lt, UInt8.toNat_ofNat', UInt8.toNat_ofNat', Nat.mod_eq_of_lt hm,
    Nat.mod_eq_of_lt hn]

theorem not_ofNat_lt {m n : Nat} (hm : m < 256) (hn : n < 256) (h : n ≤ m) :
    ¬ UInt8.ofNat m < UInt8.ofNat n := by
  rw [ofNat_lt_iff hm hn]
  omega

theorem toNat_lt_of_valid (c : Char) : c.val.toNat < 0x110000 := by
  rcases c.valid with h | h
  · omega
  · omega

/-- The bytes of a scalar by the number of bits of its code point. -/
theorem utf8EncodeChar_eq (c : Char) :
    String.utf8EncodeChar c =
      if c.val.toNat ≤ 0x7F then [UInt8.ofNat c.val.toNat]
      else if c.val.toNat ≤ 0x7FF then
        [UInt8.ofNat (c.val.toNat / 64 % 32 + 192), UInt8.ofNat (c.val.toNat % 64 + 128)]
      else if c.val.toNat ≤ 0xFFFF then
        [UInt8.ofNat (c.val.toNat / 4096 % 16 + 224), UInt8.ofNat (c.val.toNat / 64 % 64 + 128),
          UInt8.ofNat (c.val.toNat % 64 + 128)]
      else
        [UInt8.ofNat (c.val.toNat / 262144 % 8 + 240),
          UInt8.ofNat (c.val.toNat / 4096 % 64 + 128), UInt8.ofNat (c.val.toNat / 64 % 64 + 128),
          UInt8.ofNat (c.val.toNat % 64 + 128)] :=
  rfl

/-- An encoding announces its scalar, whatever follows. -/
theorem announced_utf8EncodeChar_append (c : Char) (rest : List UInt8) :
    announced (String.utf8EncodeChar c ++ rest) = c.val.toNat := by
  have hMax := toNat_lt_of_valid c
  rw [utf8EncodeChar_eq]
  split
  · have h₁ : UInt8.ofNat c.val.toNat < 0x80 :=
      (ofNat_lt_iff (n := 0x80) (by omega) (by omega)).2 (by omega)
    simp only [List.cons_append, List.nil_append, announced, h₁, if_true, UInt8.toNat_ofNat']
    omega
  · split
    · have h₁ : ¬ UInt8.ofNat (c.val.toNat / 64 % 32 + 192) < 0x80 :=
        not_ofNat_lt (n := 0x80) (by omega) (by omega) (by omega)
      have h₂ : UInt8.ofNat (c.val.toNat / 64 % 32 + 192) < 0xE0 :=
        (ofNat_lt_iff (n := 0xE0) (by omega) (by omega)).2 (by omega)
      simp only [List.cons_append, List.nil_append, announced, h₁, h₂, if_true, if_false,
        List.take, codePoint, List.foldl, UInt8.toNat_ofNat']
      omega
    · split
      · have h₁ : ¬ UInt8.ofNat (c.val.toNat / 4096 % 16 + 224) < 0x80 :=
          not_ofNat_lt (n := 0x80) (by omega) (by omega) (by omega)
        have h₂ : ¬ UInt8.ofNat (c.val.toNat / 4096 % 16 + 224) < 0xE0 :=
          not_ofNat_lt (n := 0xE0) (by omega) (by omega) (by omega)
        have h₃ : UInt8.ofNat (c.val.toNat / 4096 % 16 + 224) < 0xF0 :=
          (ofNat_lt_iff (n := 0xF0) (by omega) (by omega)).2 (by omega)
        simp only [List.cons_append, List.nil_append, announced, h₁, h₂, h₃, if_true, if_false,
          List.take, codePoint, List.foldl, UInt8.toNat_ofNat']
        omega
      · have h₁ : ¬ UInt8.ofNat (c.val.toNat / 262144 % 8 + 240) < 0x80 :=
          not_ofNat_lt (n := 0x80) (by omega) (by omega) (by omega)
        have h₂ : ¬ UInt8.ofNat (c.val.toNat / 262144 % 8 + 240) < 0xE0 :=
          not_ofNat_lt (n := 0xE0) (by omega) (by omega) (by omega)
        have h₃ : ¬ UInt8.ofNat (c.val.toNat / 262144 % 8 + 240) < 0xF0 :=
          not_ofNat_lt (n := 0xF0) (by omega) (by omega) (by omega)
        simp only [List.cons_append, List.nil_append, announced, h₁, h₂, h₃, if_false, List.take,
          codePoint, List.foldl, UInt8.toNat_ofNat']
        omega

theorem decodeChar?_utf8EncodeChar_append (c : Char) (rest : List UInt8) :
    decodeChar? (String.utf8EncodeChar c ++ rest) = some (c, rest) := by
  have hChar : Char.ofNat (announced (String.utf8EncodeChar c ++ rest)) = c := by
    rw [announced_utf8EncodeChar_append]
    exact Char.ofNat_toNat c
  have hRest : Text.afterOpening? (String.utf8EncodeChar c) (String.utf8EncodeChar c ++ rest) =
      some rest := Text.afterOpening?_eq_some_iff.2 rfl
  simp only [decodeChar?, hChar, hRest, Option.map_some]

/-! ## The text at the front -/

/-- The longest text that a byte string starts with, and the bytes after it. -/
def splitText (bytes : List UInt8) : List Char × List UInt8 :=
  match h : decodeChar? bytes with
  | some (c, rest) =>
    have := length_lt_of_decodeChar? h
    let (text, left) := splitText rest
    (c :: text, left)
  | none => ([], bytes)
termination_by bytes.length

/-- The text that a byte string spells, if all of it is well formed. -/
def decode? (bytes : List UInt8) : Option (List Char) :=
  match splitText bytes with
  | (text, []) => some text
  | (_, _ :: _) => none

theorem splitText_of_decodeChar? {bytes rest : List UInt8} {c : Char}
    (h : decodeChar? bytes = some (c, rest)) :
    splitText bytes = (c :: (splitText rest).1, (splitText rest).2) := by
  rw [splitText]
  split
  · rename_i c' rest' h'
    rw [h] at h'
    cases h'
    rfl
  · rename_i h'
    rw [h] at h'
    cases h'

theorem splitText_of_decodeChar?_eq_none {bytes : List UInt8} (h : decodeChar? bytes = none) :
    splitText bytes = ([], bytes) := by
  rw [splitText]
  split
  · rename_i h'
    rw [h] at h'
    cases h'
  · rfl

theorem encode_splitText (bytes : List UInt8) :
    encode (splitText bytes).1 ++ (splitText bytes).2 = bytes := by
  induction hLength : bytes.length using Nat.strongRecOn generalizing bytes with
  | ind n ih =>
    cases h : decodeChar? bytes with
    | none => simp [splitText_of_decodeChar?_eq_none h, encode_nil]
    | some found =>
      obtain ⟨c, rest⟩ := found
      have hLt := length_lt_of_decodeChar? h
      have hRest := ih rest.length (by omega) rest rfl
      rw [splitText_of_decodeChar? h, encode_cons, List.append_assoc, hRest]
      exact (eq_of_decodeChar? h).symm

theorem decodeChar?_splitText (bytes : List UInt8) : decodeChar? (splitText bytes).2 = none := by
  induction hLength : bytes.length using Nat.strongRecOn generalizing bytes with
  | ind n ih =>
    cases h : decodeChar? bytes with
    | none => simp [splitText_of_decodeChar?_eq_none h, h]
    | some found =>
      obtain ⟨c, rest⟩ := found
      have hLt := length_lt_of_decodeChar? h
      rw [splitText_of_decodeChar? h]
      exact ih rest.length (by omega) rest rfl

theorem splitText_encode_append (text : List Char) {rest : List UInt8}
    (h : decodeChar? rest = none) : splitText (encode text ++ rest) = (text, rest) := by
  induction text with
  | nil => exact splitText_of_decodeChar?_eq_none h
  | cons c text ih =>
    rw [encode_cons, List.append_assoc,
      splitText_of_decodeChar? (decodeChar?_utf8EncodeChar_append c _), ih]

theorem decodeChar?_nil : decodeChar? [] = none := by decide

theorem decode?_encode (text : List Char) : decode? (encode text) = some text := by
  have h := splitText_encode_append text decodeChar?_nil
  rw [List.append_nil] at h
  simp only [decode?, h]

theorem encode_of_decode? {bytes : List UInt8} {text : List Char} (h : decode? bytes = some text) :
    encode text = bytes := by
  have hSplit := encode_splitText bytes
  unfold decode? at h
  split at h
  · rename_i found hFound
    cases h
    simpa [hFound] using hSplit
  · cases h

theorem decode?_eq_some_iff {bytes : List UInt8} {text : List Char} :
    decode? bytes = some text ↔ encode text = bytes :=
  ⟨encode_of_decode?, fun h => h ▸ decode?_encode text⟩

end TwoWay.Utf8
