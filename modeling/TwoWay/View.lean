import TwoWay.Text.Digit
import TwoWay.Text.Identifier
import TwoWay.Text.Space
import TwoWay.Text.Utf8
import TwoWay.Cluster.Boundary

/-!
# Views of a text

The same text can be read as scalars, as bytes, as grapheme clusters, or as bytes of a shared
buffer. A text of a view is a list of atoms: scalars on the text views, bytes on the byte views.
What is left to read, a run that was read and a buffer that is written to are all texts. A token is
what is read at a time; its length in atoms is one except for clusters.

* `next?_eq_some`: a token and what follows it make up the text, and the token is not empty.
* `size_append`: sizes in bytes add up.
* `truncate_append`: cutting a text back to the size it had undoes what was appended since.
* `cut?_eq_some_iff`: where a text can be cut.
-/

namespace TwoWay

/-- The ways to read a text. -/
inductive View where
  | chars
  | bytes
  | graphemes
  | sharedBytes
  deriving DecidableEq, Repr

namespace View

/-! ## Atoms and texts -/

/-- What the texts of a view are lists of. -/
abbrev Atom : View → Type
  | .chars | .graphemes => Char
  | .bytes | .sharedBytes => UInt8

/-- The texts of a view. -/
abbrev Text (v : View) : Type := List v.Atom

instance instDecidableEqAtom : (v : View) → DecidableEq v.Atom
  | .chars | .graphemes => inferInstanceAs (DecidableEq Char)
  | .bytes | .sharedBytes => inferInstanceAs (DecidableEq UInt8)

/-- The number of bytes of an atom. -/
def atomSize : (v : View) → v.Atom → Nat
  | .chars, c | .graphemes, c => Char.utf8Size c
  | .bytes, _ | .sharedBytes, _ => 1

theorem atomSize_pos : (v : View) → (a : v.Atom) → 0 < v.atomSize a
  | .chars, c | .graphemes, c => Char.utf8Size_pos c
  | .bytes, _ | .sharedBytes, _ => Nat.one_pos

/-- The number of bytes of a text. -/
def size (v : View) : v.Text → Nat
  | [] => 0
  | a :: text => v.atomSize a + size v text

/-- The text of a view that spells a list of scalars. -/
def spell : (v : View) → List Char → v.Text
  | .chars, text | .graphemes, text => text
  | .bytes, text | .sharedBytes, text => Utf8.encode text

@[simp]
theorem size_nil (v : View) : v.size [] = 0 := rfl

@[simp]
theorem size_cons (v : View) (a : v.Atom) (text : v.Text) :
    v.size (a :: text) = v.atomSize a + v.size text := rfl

theorem size_append (v : View) (s t : v.Text) : v.size (s ++ t) = v.size s + v.size t := by
  induction s with
  | nil => simp
  | cons a s ih => simp [ih, Nat.add_assoc]

theorem size_pos_of_ne_nil (v : View) {text : v.Text} (h : text ≠ []) : 0 < v.size text := by
  cases text with
  | nil => exact absurd rfl h
  | cons a text =>
    have := v.atomSize_pos a
    rw [size_cons]
    omega

theorem size_eq_zero_iff (v : View) {text : v.Text} : v.size text = 0 ↔ text = [] := by
  refine ⟨fun h => ?_, fun h => h ▸ rfl⟩
  by_cases hNil : text = []
  · exact hNil
  · have := v.size_pos_of_ne_nil hNil
    omega

/-- The size is the only measure of texts that adds up their atoms. -/
theorem size_unique (v : View) (measure : v.Text → Nat) (hNil : measure [] = 0)
    (hCons : ∀ a text, measure (a :: text) = v.atomSize a + measure text) (text : v.Text) :
    v.size text = measure text := by
  induction text with
  | nil => exact hNil.symm
  | cons a text ih => rw [size_cons, hCons, ih]

theorem size_spell (v : View) (text : List Char) :
    v.size (v.spell text) = (Utf8.encode text).length := by
  have hChar (c : Char) (text : List Char) :
      (Utf8.encode (c :: text)).length = Char.utf8Size c + (Utf8.encode text).length := by
    rw [Utf8.encode_cons, List.length_append, String.length_utf8EncodeChar]
  have hByte (b : UInt8) (bytes : List UInt8) : (b :: bytes).length = 1 + bytes.length := by
    rw [List.length_cons, Nat.add_comm]
  cases v with
  | chars => exact size_unique .chars (fun text => (Utf8.encode text).length) rfl hChar text
  | bytes => exact size_unique .bytes List.length rfl hByte (Utf8.encode text)
  | graphemes => exact size_unique .graphemes (fun text => (Utf8.encode text).length) rfl hChar text
  | sharedBytes => exact size_unique .sharedBytes List.length rfl hByte (Utf8.encode text)

/-! ## Cutting -/

/-- The longest beginning of a text that has at most a number of bytes. -/
def truncate (v : View) : Nat → v.Text → v.Text
  | _, [] => []
  | n, a :: text => if v.atomSize a ≤ n then a :: truncate v (n - v.atomSize a) text else []

/-- Cuts a text after a number of bytes, unless the cut falls inside an atom or past the end. -/
def cut? (v : View) : Nat → v.Text → Option (v.Text × v.Text)
  | 0, text => some ([], text)
  | _ + 1, [] => none
  | n + 1, a :: text =>
    if v.atomSize a ≤ n + 1 then
      (cut? v (n + 1 - v.atomSize a) text).map fun parts => (a :: parts.1, parts.2)
    else none

/-- What was read between an earlier position and a later one, when what is left there ends the
earlier text as far as sizes tell. -/
def consumedSince? (v : View) (earlier later : v.Text) : Option v.Text :=
  if v.size later ≤ v.size earlier then
    (v.cut? (v.size earlier - v.size later) earlier).map Prod.fst
  else none

theorem truncate_append (v : View) (s t : v.Text) : v.truncate (v.size s) (s ++ t) = s := by
  induction s with
  | nil =>
    cases t with
    | nil => rfl
    | cons a t =>
      have := v.atomSize_pos a
      simp only [size_nil, List.nil_append, truncate]
      rw [if_neg (by omega)]
  | cons a s ih => simp [truncate, ih]

theorem cut?_append (v : View) (s t : v.Text) : v.cut? (v.size s) (s ++ t) = some (s, t) := by
  induction s with
  | nil => simp [cut?]
  | cons a s ih =>
    have hPos := v.atomSize_pos a
    obtain ⟨n, hn⟩ : ∃ n, v.atomSize a + v.size s = n + 1 :=
      ⟨v.atomSize a + v.size s - 1, by omega⟩
    have hRest : n + 1 - v.atomSize a = v.size s := by omega
    rw [size_cons, hn, List.cons_append, cut?, if_pos (by omega), hRest, ih]
    rfl

theorem eq_append_of_cut? (v : View) {n : Nat} {text s t : v.Text}
    (h : v.cut? n text = some (s, t)) : text = s ++ t ∧ n = v.size s := by
  induction text generalizing n s with
  | nil =>
    cases n with
    | zero => simp only [cut?, Option.some.injEq, Prod.mk.injEq] at h; simp [← h.1, ← h.2]
    | succ n => simp [cut?] at h
  | cons a text ih =>
    cases n with
    | zero => simp only [cut?, Option.some.injEq, Prod.mk.injEq] at h; simp [← h.1, ← h.2]
    | succ n =>
      rw [cut?] at h
      split at h
      · obtain ⟨⟨s', t'⟩, hFound, hParts⟩ := Option.map_eq_some_iff.1 h
        cases hParts
        obtain ⟨rfl, hn⟩ := ih hFound
        refine ⟨rfl, ?_⟩
        simp only [size_cons] at hn ⊢
        omega
      · cases h

theorem cut?_eq_some_iff (v : View) {n : Nat} {text s t : v.Text} :
    v.cut? n text = some (s, t) ↔ text = s ++ t ∧ n = v.size s := by
  refine ⟨v.eq_append_of_cut?, ?_⟩
  rintro ⟨rfl, rfl⟩
  exact v.cut?_append s t

theorem consumedSince?_append (v : View) (s t : v.Text) :
    v.consumedSince? (s ++ t) t = some s := by
  have hLe : v.size t ≤ v.size (s ++ t) := by rw [size_append]; omega
  rw [consumedSince?, if_pos hLe, size_append, Nat.add_sub_cancel, cut?_append]
  rfl

/-! ## Tokens -/

/-- What is read from a text of a view at a time. -/
abbrev Token : View → Type
  | .chars => Char
  | .graphemes => List Char
  | .bytes | .sharedBytes => UInt8

/-- The text of one token. -/
def tokenText : (v : View) → v.Token → v.Text
  | .chars, c => [c]
  | .graphemes, cluster => cluster
  | .bytes, b | .sharedBytes, b => [b]

/-- The first token of a text, and what follows it. -/
def next? : (v : View) → v.Text → Option (v.Token × v.Text)
  | .graphemes, text => Cluster.next? text
  | .chars, [] | .bytes, [] | .sharedBytes, [] => none
  | .chars, c :: text => some (c, text)
  | .bytes, b :: text | .sharedBytes, b :: text => some (b, text)

/-- Whether a token may end between two parts of a text. On the clusters this is where the rules
place a boundary. -/
def isBoundary : (v : View) → (front back : v.Text) → Bool
  | .graphemes, front, back => Cluster.isBoundary front back
  | .chars, _, _ | .bytes, _, _ | .sharedBytes, _, _ => true

theorem next?_eq_some (v : View) {text rest : v.Text} {token : v.Token}
    (h : v.next? text = some (token, rest)) :
    text = v.tokenText token ++ rest ∧ v.tokenText token ≠ [] := by
  cases v with
  | graphemes => exact Cluster.next?_eq_some h
  | chars | bytes | sharedBytes =>
    cases text with
    | nil => cases h
    | cons a text => cases h; simp [tokenText]

theorem length_lt_of_next? (v : View) {text rest : v.Text} {token : v.Token}
    (h : v.next? text = some (token, rest)) : rest.length < text.length := by
  obtain ⟨rfl, hNonempty⟩ := v.next?_eq_some h
  have := List.length_pos_iff.2 hNonempty
  rw [List.length_append]
  omega

/-! ## Characters -/

/-- Whether the tokens of a view are single characters, so that numerals and identifiers can be read
from it. -/
def hasCharacters : View → Bool
  | .chars | .bytes | .sharedBytes => true
  | .graphemes => false

/-- The character that a token stands for: a byte stands for the code point of its value. A cluster
stands for none. -/
def character? : (v : View) → v.Token → Option Char
  | .chars, c => some c
  | .bytes, b | .sharedBytes, b => some (Char.ofNat b.toNat)
  | .graphemes, _ => none

/-- The token that a character is written as: bytes can only hold the ASCII characters. -/
def ofCharacter? : (v : View) → Char → Option v.Token
  | .chars, c => some c
  | .bytes, c | .sharedBytes, c => if c.toNat < 0x80 then some (UInt8.ofNat c.toNat) else none
  | .graphemes, _ => none

/-- Whether a token may start an identifier. -/
def isIdentStart : (v : View) → v.Token → Bool
  | .chars, c => Text.isIdentStart c
  | .bytes, b | .sharedBytes, b => Text.isAsciiIdentStart b
  | .graphemes, _ => false

/-- Whether a token may stand in an identifier after its first. -/
def isIdentContinue : (v : View) → v.Token → Bool
  | .chars, c => Text.isIdentContinue c
  | .bytes, b | .sharedBytes, b => Text.isAsciiIdentContinue b
  | .graphemes, _ => false

/-- Whether a token is white space. -/
def isSpace : (v : View) → v.Token → Bool
  | .chars, c => Text.isSpace c
  | .bytes, b | .sharedBytes, b => Text.isAsciiSpace b
  | .graphemes, _ => false

/-- Whether a token is white space inside a line. -/
def isInlineSpace : (v : View) → v.Token → Bool
  | .chars, c => Text.isInlineSpace c
  | .bytes, b | .sharedBytes, b => Text.isAsciiInlineSpace b
  | .graphemes, _ => false

end View

end TwoWay
