import Mathlib.Algebra.Group.Nat.Defs
import TwoWay.Proofs.Bridge.Ascii
import TwoWay.Proofs.Reading.Guarded

/-!
# Integers are exact

At the front of a text stands a numeral: an optional minus sign, and then as many digits as there
are. It is read as a value of an integer type exactly when it has a digit, the type takes its sign,
and its value is in range; a shorter numeral is never tried. The shortest numeral of a value is
written, and is read back in front of anything but a digit.

* `IntType.InRange`: the ranges of the types, by the bits of their widths.
* `View.StandsFor`: the token that an ASCII character is written as.
* `View.NumeralFront`: the numeral at the front of a text; `View.exists_numeralFront`: there always
  is one.
* `takeNumeral_of_front`: it is what is looked at.
* `IntType.number_exact`: how every integer type is read and written on scalars and on bytes.
-/

namespace TwoWay

/-! ## Ranges -/

/-- The bits of a width. -/
def Width.bits : Width → Nat
  | .w8 => 8
  | .w16 => 16
  | .w32 => 32
  | .w64 => 64
  | .w128 => 128

theorem Width.valueCount_eq (width : Width) : width.valueCount = 2 ^ width.bits := by
  cases width <;> rfl

theorem Width.half_valueCount_eq (width : Width) :
    width.valueCount / 2 = 2 ^ (width.bits - 1) := by
  cases width <;> rfl

namespace IntType

/-- The integer is a value of the type. -/
def InRange : IntType → Int → Prop
  | .signed width, n =>
    -((2 ^ (width.bits - 1) : Nat) : Int) ≤ n ∧ n < ((2 ^ (width.bits - 1) : Nat) : Int)
  | .unsigned width, n => 0 ≤ n ∧ n < ((2 ^ width.bits : Nat) : Int)
  | .nonzero width, n => 0 < n ∧ n < ((2 ^ width.bits : Nat) : Int)

theorem contains_iff_inRange {type : IntType} {n : Int} :
    type.contains n = true ↔ type.InRange n := by
  rw [contains_iff]
  cases type with
  | signed width =>
    rw [least, greatest, width.half_valueCount_eq]
    unfold InRange
    omega
  | unsigned width =>
    rw [least, greatest, width.valueCount_eq]
    unfold InRange
    omega
  | nonzero width =>
    rw [least, greatest, width.valueCount_eq]
    unfold InRange
    omega

theorem takesSign_iff {type : IntType} :
    type.takesSign = true ↔ ∃ width, type = .signed width := by
  cases type <;> simp [takesSign]

end IntType

/-! ## Numerals and their values -/

/-- The shortest numeral of an integer is how it is shown. -/
theorem decimal_eq_toString (n : Int) : decimal n = (toString n).toList := by
  cases n with
  | ofNat n => exact (String.toList_ofList (l := Nat.toDigits 10 n)).symm
  | negSucc n =>
    have hString : toString (Int.negSucc n) = "-" ++ String.ofList (Nat.toDigits 10 (n + 1)) := rfl
    rw [hString, String.toList_append, String.toList_ofList (l := Nat.toDigits 10 (n + 1))]
    rfl

/-- Digits, behind a minus sign or not. -/
def signedDigits (negative : Bool) (digits : List Char) : List Char :=
  if negative then '-' :: digits else digits

/-- The value of digits, behind a minus sign or not. -/
def signedValue (negative : Bool) (digits : List Char) : Int :=
  if negative then -(digitsValue digits : Int) else digitsValue digits

/-- The digits, behind a minus sign or not, name a value of the type. -/
structure IntType.Names (type : IntType) (negative : Bool) (digits : List Char) : Prop where
  ne_nil : digits ≠ []
  takes_sign : negative = true → ∃ width, type = .signed width
  inRange : type.InRange (signedValue negative digits)

section Digits

variable {digits : List Char} (h : ∀ c ∈ digits, c.isDigit = true)
include h

theorem head?_of_digits : digits.head? ≠ some '-' := by
  intro hHead
  have hDigit := h '-' (List.mem_of_mem_head? hHead)
  cases hDigit

theorem isNumeral_signedDigits (negative : Bool) :
    isNumeral (signedDigits negative digits) = true ↔ digits ≠ [] := by
  have hAll : digits.all Char.isDigit = true := List.all_eq_true.2 h
  have hDigits : numeralDigits (signedDigits negative digits) = digits := by
    cases negative with
    | true => rfl
    | false => exact numeralDigits_of_digits h
  rw [isNumeral, hDigits, hAll, Bool.and_true, Bool.not_eq_true', List.isEmpty_eq_false_iff]

theorem numeralValue_signedDigits (negative : Bool) :
    numeralValue (signedDigits negative digits) = signedValue negative digits := by
  cases negative with
  | true => rfl
  | false => exact numeralValue_of_digits h

theorem takesSign_or_iff (type : IntType) (negative : Bool) :
    (type.takesSign || (signedDigits negative digits).head? != some '-') = true ↔
      (negative = true → ∃ width, type = .signed width) := by
  rw [Bool.or_eq_true, IntType.takesSign_iff]
  cases negative with
  | true => simp [signedDigits]
  | false => simp [signedDigits, head?_of_digits h]

/-- What a numeral names depends on its sign, its digits and its value. -/
theorem IntType.ofNumeral?_signedDigits (type : IntType) (negative : Bool) :
    (type.Names negative digits →
      type.ofNumeral? (signedDigits negative digits) = some (signedValue negative digits)) ∧
    (¬ type.Names negative digits → type.ofNumeral? (signedDigits negative digits) = none) := by
  have hNames : (isNumeral (signedDigits negative digits) &&
      (type.takesSign || (signedDigits negative digits).head? != some '-') &&
      type.contains (signedValue negative digits)) = true ↔ type.Names negative digits := by
    rw [Bool.and_eq_true, Bool.and_eq_true, isNumeral_signedDigits h, takesSign_or_iff h,
      contains_iff_inRange]
    exact ⟨fun ⟨⟨hNe, hSign⟩, hRange⟩ => ⟨hNe, hSign, hRange⟩,
      fun hNames => ⟨⟨hNames.ne_nil, hNames.takes_sign⟩, hNames.inRange⟩⟩
  rw [ofNumeral?, numeralValue_signedDigits h]
  exact ⟨fun hYes => if_pos (hNames.2 hYes), fun hNo => if_neg (mt hNames.1 hNo)⟩

end Digits

/-! ## Characters and their tokens -/

namespace View

variable {v : View}

theorem spell_append (v : View) (s t : List Char) : v.spell (s ++ t) = v.spell s ++ v.spell t := by
  cases v with
  | chars | graphemes => rfl
  | bytes | sharedBytes => exact Utf8.encode_append s t

/-- The token is what the character is written as, and stands for the character. -/
structure StandsFor (v : View) (token : v.Token) (c : Char) : Prop where
  tokenText_eq : v.tokenText token = v.spell [c]
  character?_eq : v.character? token = some c

theorem exists_standsFor (hv : v.hasCharacters = true) {c : Char} (h : c.toNat < 0x80) :
    ∃ token, v.StandsFor token c := by
  have hSame : SameAscii c (UInt8.ofNat c.toNat) := ⟨by rw [UInt8.toNat_ofNat']; omega, h⟩
  have hEncode : [UInt8.ofNat c.toNat] = Utf8.encode [c] := by
    rw [Utf8.encode_cons, hSame.encode_eq]
    rfl
  cases v with
  | graphemes => cases hv
  | chars => exact ⟨c, rfl, rfl⟩
  | bytes | sharedBytes => exact ⟨UInt8.ofNat c.toNat, hEncode, congrArg some hSame.ofNat_eq⟩

theorem standsFor_of_character? {token : v.Token} {c : Char} (h : v.character? token = some c)
    (hAscii : c.toNat < 0x80) : v.StandsFor token c := by
  cases v with
  | graphemes => cases h
  | chars =>
    cases h
    exact ⟨rfl, rfl⟩
  | bytes | sharedBytes =>
    cases h
    rw [Utf8.toNat_ofNat_toNat] at hAscii
    refine ⟨?_, rfl⟩
    rw [spell, Utf8.encode_cons, (SameAscii.of_byte hAscii).encode_eq]
    rfl

theorem exists_forall_standsFor (hv : v.hasCharacters = true) {chars : List Char}
    (h : ∀ c ∈ chars, c.toNat < 0x80) : ∃ tokens, List.Forall₂ v.StandsFor tokens chars := by
  induction chars with
  | nil => exact ⟨[], .nil⟩
  | cons c chars ih =>
    obtain ⟨hChar, hChars⟩ := List.forall_mem_cons.1 h
    obtain ⟨token, hToken⟩ := exists_standsFor hv hChar
    obtain ⟨tokens, hTokens⟩ := ih hChars
    exact ⟨token :: tokens, .cons hToken hTokens⟩

variable {tokens : List v.Token} {chars : List Char}

theorem textOf_eq_spell (h : List.Forall₂ v.StandsFor tokens chars) :
    v.textOf tokens = v.spell chars := by
  induction h with
  | nil => cases v <;> rfl
  | @cons token c tokens chars hToken hTokens ih =>
    calc v.textOf (token :: tokens) = v.tokenText token ++ v.textOf tokens := rfl
      _ = v.spell ([c] ++ chars) := by rw [hToken.tokenText_eq, ih, spell_append]

theorem filterMap_character? (h : List.Forall₂ v.StandsFor tokens chars) :
    tokens.filterMap v.character? = chars := by
  induction h with
  | nil => rfl
  | cons hToken hTokens ih => rw [List.filterMap_cons, hToken.character?_eq, ih]

/-- One ASCII character at most stands at the front of a text. -/
theorem eq_of_spell_front (hv : v.hasCharacters = true) {c d : Char} {text : v.Text}
    (hc : c.toNat < 0x80) (hd : d.toNat < 0x80) (hFront : v.spell [c] <+: text)
    (hFront' : v.spell [d] <+: text) : c = d := by
  obtain ⟨token, hToken⟩ := exists_standsFor hv hc
  obtain ⟨token', hToken'⟩ := exists_standsFor hv hd
  obtain ⟨rest, rfl⟩ := hFront
  obtain ⟨rest', hText⟩ := hFront'
  rw [← hToken.tokenText_eq, ← hToken'.tokenText_eq] at hText
  have hNext := congrArg v.next? hText
  rw [next?_tokenText hv, next?_tokenText hv] at hNext
  cases hNext
  exact Option.some.inj (hToken.character?_eq.symm.trans hToken'.character?_eq)

end View

/-! ## Tests of ASCII characters -/

/-- The test for a token that stands for an accepted character. -/
def Test.ofChar (v : View) (accepts : Char → Bool) : Test v :=
  Test.ofPred fun token => (v.character? token).any accepts

theorem isMinus_eq (v : View) : isMinus v = Test.ofChar v (· == '-') := by
  funext token
  have hSame (found : Option Char) : (found == some '-') = found.any (· == '-') := by
    cases found <;> rfl
  exact congrArg Except.ok (hSame (v.character? token))

theorem toNat_lt_of_isDigit {c : Char} (h : c.isDigit = true) : c.toNat < 0x80 := by
  simp only [Char.isDigit, Bool.and_eq_true, decide_eq_true_eq] at h
  exact Nat.lt_of_le_of_lt h.2 (by decide)

theorem toNat_lt_of_eq_minus {c : Char} (h : (c == '-') = true) : c.toNat < 0x80 := by
  rw [eq_of_beq h]
  decide

section Tests

variable {v : View} {accepts : Char → Bool} {text rest : v.Text}
  (hAscii : ∀ c, accepts c = true → c.toNat < 0x80)
include hAscii

theorem exists_standsFor_of_test {token : v.Token}
    (h : Test.ofChar v accepts token = .ok true) :
    ∃ c, accepts c = true ∧ v.StandsFor token c := by
  have hAny : (v.character? token).any accepts = true := Except.ok.inj h
  cases hFound : v.character? token with
  | none =>
    rw [hFound] at hAny
    cases hAny
  | some c =>
    rw [hFound] at hAny
    exact ⟨c, hAny, View.standsFor_of_character? hFound (hAscii c hAny)⟩

omit hAscii in
theorem Test.ofChar_eq {token : v.Token} {c : Char} (h : v.StandsFor token c) :
    Test.ofChar v accepts token = .ok (accepts c) := by
  simp only [Test.ofChar, Test.ofPred, h.character?_eq, Option.any_some]

/-- Nothing passes at the front of a text that no accepted character stands at the front of. -/
theorem Test.stopsAt_ofChar_iff (hv : v.hasCharacters = true) :
    (Test.ofChar v accepts).StopsAt text ↔ ∀ c, accepts c = true → ¬ v.spell [c] <+: text := by
  constructor
  · rintro hStop c hAccepts ⟨rest, rfl⟩
    obtain ⟨token, hToken⟩ := View.exists_standsFor hv (hAscii c hAccepts)
    have hNext := View.next?_tokenText hv token rest
    rw [hToken.tokenText_eq] at hNext
    have hTest := hStop token rest hNext
    rw [Test.ofChar_eq hToken, hAccepts] at hTest
    cases hTest
  · intro hNone token rest hNext
    cases hTest : (v.character? token).any accepts with
    | false => exact congrArg Except.ok hTest
    | true =>
      obtain ⟨c, hAccepts, hToken⟩ := exists_standsFor_of_test hAscii (congrArg Except.ok hTest)
      refine absurd ⟨rest, ?_⟩ (hNone c hAccepts)
      rw [← hToken.tokenText_eq, (v.next?_eq_some hNext).1]

/-- Every text starts with a run of accepted characters that ends where none is accepted. -/
theorem exists_spell_append (v : View) (text : v.Text) :
    ∃ chars rest, text = v.spell chars ++ rest ∧ (∀ c ∈ chars, accepts c = true) ∧
      (Test.ofChar v accepts).StopsAt rest := by
  cases hRun : takeRun (Test.ofChar v accepts) none text with
  | failed failure left => exact absurd hRun (takeRun_ne_failed _ _ _ _ _)
  | aborted fault => exact absurd hRun (takeRun_ofPred_ne_aborted _ _ _ _)
  | done tokens rest =>
    have hTokens := takeRun_accepts hRun
    have hStop := takeRun_stopsAt hRun rfl
    have hChars : ∃ chars, List.Forall₂ v.StandsFor tokens chars ∧
        ∀ c ∈ chars, accepts c = true := by
      clear hRun hStop
      induction tokens with
      | nil => exact ⟨[], .nil, by simp⟩
      | cons token tokens ih =>
        obtain ⟨hToken, hTokens⟩ := List.forall_mem_cons.1 hTokens
        obtain ⟨c, hAccepts, hStands⟩ := exists_standsFor_of_test hAscii hToken
        obtain ⟨chars, hChars, hAll⟩ := ih hTokens
        exact ⟨c :: chars, .cons hStands hChars, List.forall_mem_cons.2 ⟨hAccepts, hAll⟩⟩
    obtain ⟨chars, hChars, hAll⟩ := hChars
    refine ⟨chars, rest, ?_, hAll, hStop⟩
    rw [takeRun_eq_done hRun, View.textOf_eq_spell hChars]

omit hAscii in
theorem Test.ofChar_of_forall₂ {tokens : List v.Token} {chars : List Char}
    (hTokens : List.Forall₂ v.StandsFor tokens chars) (h : ∀ c ∈ chars, accepts c = true) :
    ∀ token ∈ tokens, Test.ofChar v accepts token = .ok true := by
  induction hTokens with
  | nil => simp
  | cons hToken hTokens ih =>
    obtain ⟨hChar, hChars⟩ := List.forall_mem_cons.1 h
    exact List.forall_mem_cons.2 ⟨by rw [Test.ofChar_eq hToken, hChar], ih hChars⟩

/-- A run of accepted characters is read up to where none is accepted. -/
theorem takeRun_spell_append (hv : v.hasCharacters = true) {chars : List Char}
    (h : ∀ c ∈ chars, accepts c = true) (hStop : (Test.ofChar v accepts).StopsAt rest) :
    ∃ tokens, takeRun (Test.ofChar v accepts) none (v.spell chars ++ rest) = .done tokens rest ∧
      tokens.filterMap v.character? = chars := by
  obtain ⟨tokens, hTokens⟩ := View.exists_forall_standsFor hv fun c hc => hAscii c (h c hc)
  refine ⟨tokens, ?_, View.filterMap_character? hTokens⟩
  rw [← View.textOf_eq_spell hTokens]
  exact takeRun_append hv (Test.ofChar_of_forall₂ hTokens h) hStop

end Tests

/-! ## The numeral at the front -/

/-- A numeral and what follows it: an optional minus sign, and then as many digits as there are. -/
structure View.NumeralFront (v : View) (text : v.Text) (negative : Bool) (digits : List Char)
    (rest : v.Text) : Prop where
  eq_append : text = v.spell (signedDigits negative digits) ++ rest
  isDigit : ∀ c ∈ digits, c.isDigit = true
  no_sign : negative = false → ¬ v.spell ['-'] <+: text
  longest : ∀ c, c.isDigit = true → ¬ v.spell [c] <+: rest

section Numerals

variable {v : View} {text rest : v.Text} {negative : Bool} {digits : List Char}

theorem View.spell_cons (v : View) (c : Char) (chars : List Char) :
    v.spell (c :: chars) = v.spell [c] ++ v.spell chars := v.spell_append [c] chars

theorem View.exists_numeralFront (hv : v.hasCharacters = true) (text : v.Text) :
    ∃ negative digits rest, v.NumeralFront text negative digits rest := by
  by_cases hSign : v.spell ['-'] <+: text
  · obtain ⟨unsigned, rfl⟩ := hSign
    obtain ⟨digits, rest, rfl, hDigits, hStop⟩ :=
      exists_spell_append (fun _ => toNat_lt_of_isDigit) v unsigned
    refine ⟨true, digits, rest, ?_, hDigits, nofun,
      (Test.stopsAt_ofChar_iff (fun _ => toNat_lt_of_isDigit) hv).1 hStop⟩
    rw [← List.append_assoc, ← v.spell_cons]
    rfl
  · obtain ⟨digits, rest, rfl, hDigits, hStop⟩ :=
      exists_spell_append (fun _ => toNat_lt_of_isDigit) v text
    exact ⟨false, digits, rest, rfl, hDigits, fun _ => hSign,
      (Test.stopsAt_ofChar_iff (fun _ => toNat_lt_of_isDigit) hv).1 hStop⟩

/-- What is looked at is what the two runs have read. -/
theorem takeNumeral_of_runs {unsigned : v.Text} {sign tokens : List v.Token}
    (hSign : takeRun (isMinus v) (some 1) text = .done sign unsigned)
    (hDigits : takeRun (isDecimalDigit v) none unsigned = .done tokens rest) :
    takeNumeral v text =
      .done (sign.filterMap v.character? ++ tokens.filterMap v.character?) rest := by
  simp only [takeNumeral, Step.map, Step.andThen, hSign, hDigits, Outcome.map,
    List.filterMap_append]

/-- What is looked at is the numeral at the front, and all of it. -/
theorem takeNumeral_of_front (hv : v.hasCharacters = true)
    (h : v.NumeralFront text negative digits rest) :
    takeNumeral v text = .done (signedDigits negative digits) rest := by
  have hStop := (Test.stopsAt_ofChar_iff (fun _ => toNat_lt_of_isDigit) hv).2 h.longest
  obtain ⟨tokens, hRun, hDigits⟩ :=
    takeRun_spell_append (fun _ => toNat_lt_of_isDigit) hv h.isDigit hStop
  cases negative with
  | true =>
    obtain ⟨minus, hMinus⟩ := View.exists_standsFor hv (c := '-') (by decide)
    have hAccepted : ∀ token ∈ [minus], isMinus v token = .ok true := by
      simp [isMinus_eq, Test.ofChar_eq hMinus]
    have hText : text = v.spell ('-' :: digits) ++ rest := h.eq_append
    have hSign := takeRun_of_length hv hAccepted (v.spell digits ++ rest)
    rw [View.textOf_eq_spell (.cons hMinus .nil), ← List.append_assoc, ← v.spell_cons,
      ← hText] at hSign
    rw [takeNumeral_of_runs hSign hRun, hDigits, View.filterMap_character? (.cons hMinus .nil)]
    rfl
  | false =>
    have hNoSign : (isMinus v).StopsAt text := by
      rw [isMinus_eq]
      refine (Test.stopsAt_ofChar_iff (fun _ => toNat_lt_of_eq_minus) hv).2 fun c hc => ?_
      rw [eq_of_beq hc]
      exact h.no_sign rfl
    have hText : text = v.spell digits ++ rest := h.eq_append
    rw [← hText] at hRun
    rw [takeNumeral_of_runs (takeRun_of_stop hNoSign) hRun, hDigits]
    rfl

end Numerals

/-! ## Integers -/

section Integers

variable {v : View} {type : IntType}

/-- The numeral at the front decides what is read. -/
theorem readNumber_int_of_front (hv : v.hasCharacters = true) {text rest : v.Text}
    {negative : Bool} {digits : List Char} (h : v.NumeralFront text negative digits rest) :
    (type.Names negative digits →
      readNumber v (.int type) text = .done (signedValue negative digits) rest) ∧
    (¬ type.Names negative digits → readNumber v (.int type) text = .failed .parse text) := by
  obtain ⟨hSome, hNone⟩ := type.ofNumeral?_signedDigits h.isDigit negative
  unfold readNumber
  simp only [takeNumeral_of_front hv h, NumberForm.int]
  constructor
  · intro hNames
    simp only [hSome hNames]
  · intro hNames
    simp only [hNone hNames]

theorem writeNumber_int {n : Int} (h : type.InRange n) (buffer : v.Text) :
    writeNumber v (.int type) n buffer = .done () (buffer ++ v.spell (toString n).toList) := by
  have hNumeral : type.numeral? n = some (decimal n) := if_pos (IntType.contains_iff_inRange.2 h)
  have hShown : isNumeral (toString n).toList = true :=
    decimal_eq_toString n ▸ decimal_isNumeral n
  simp only [writeNumber, NumberForm.int, hNumeral, decimal_eq_toString, hShown, if_true, append]

/-- What is written for an integer is a numeral at the front of it and anything but a digit. -/
theorem numeralFront_toString (hv : v.hasCharacters = true) (n : Int) {rest : v.Text}
    (hRest : ∀ c, c.isDigit = true → ¬ v.spell [c] <+: rest) :
    ∃ negative digits, v.NumeralFront (v.spell (toString n).toList ++ rest) negative digits rest ∧
      digits ≠ [] ∧ (negative = true → n < 0) ∧ signedValue negative digits = n := by
  rw [← decimal_eq_toString]
  cases n with
  | ofNat n =>
    have hNoSign : ¬ v.spell ['-'] <+: v.spell (Nat.toDigits 10 n) ++ rest := by
      intro hMinus
      obtain ⟨d, digits, hDigits⟩ := List.exists_cons_of_ne_nil (Nat.toDigits_ne_nil (n := n))
      have hDigit : d.isDigit = true := isDigit_of_mem_toDigits d (hDigits ▸ List.mem_cons_self)
      have hFront : v.spell [d] <+: v.spell (Nat.toDigits 10 n) ++ rest := by
        rw [hDigits, v.spell_cons d digits, List.append_assoc]
        exact List.prefix_append _ _
      rw [← View.eq_of_spell_front hv (by decide) (toNat_lt_of_isDigit hDigit) hMinus hFront]
        at hDigit
      cases hDigit
    refine ⟨false, Nat.toDigits 10 n, ⟨rfl, isDigit_of_mem_toDigits, fun _ => hNoSign, hRest⟩,
      Nat.toDigits_ne_nil, fun hTrue => absurd hTrue Bool.false_ne_true, ?_⟩
    exact congrArg Int.ofNat (digitsValue_toDigits n)
  | negSucc n =>
    refine ⟨true, Nat.toDigits 10 (n + 1), ⟨rfl, isDigit_of_mem_toDigits,
      fun hFalse => absurd hFalse.symm Bool.false_ne_true, hRest⟩, Nat.toDigits_ne_nil,
      fun _ => Int.negSucc_lt_zero n, ?_⟩
    rw [signedValue, if_pos rfl, digitsValue_toDigits]
    rfl

theorem IntType.InRange.exists_signed {n : Int} (h : type.InRange n) (hNegative : n < 0) :
    ∃ width, type = .signed width := by
  cases type with
  | signed width => exact ⟨width, rfl⟩
  | unsigned width => exact absurd h.1 (by omega)
  | nonzero width => exact absurd h.1 (by omega)

/-- **Integers are read and written exactly.** Every text has a numeral at its front. If it names a
value of the type, that value is read and what follows the numeral is left, and otherwise nothing is
read. A value is written as it is shown, and read back in front of anything but a digit. -/
theorem IntType.number_exact (type : IntType) {v : View} (hv : v.hasCharacters = true) :
    (∀ text, ∃ negative digits rest, v.NumeralFront text negative digits rest) ∧
    (∀ text negative digits rest, v.NumeralFront text negative digits rest →
      (type.Names negative digits → (Grammar.number (.int type) hv).parse text =
        .done (signedValue negative digits) rest) ∧
      (¬ type.Names negative digits →
        (Grammar.number (.int type) hv).parse text = .failed .parse text)) ∧
    (∀ n, type.InRange n → ∀ buffer : v.Text, (Grammar.number (.int type) hv).print n buffer =
      .done () (buffer ++ v.spell (toString n).toList)) ∧
    ∀ n, type.InRange n → ∀ rest : v.Text,
      (∀ c, c.isDigit = true → ¬ v.spell [c] <+: rest) →
        (Grammar.number (.int type) hv).parse (v.spell (toString n).toList ++ rest) =
          .done n rest := by
  refine ⟨View.exists_numeralFront hv, fun _ _ _ _ h => readNumber_int_of_front hv h,
    fun _ h => writeNumber_int h, fun n hRange rest hRest => ?_⟩
  obtain ⟨negative, digits, hFront, hNe, hSign, rfl⟩ := numeralFront_toString hv n hRest
  exact (readNumber_int_of_front hv hFront).1
    ⟨hNe, fun hNegative => hRange.exists_signed (hSign hNegative), hRange⟩

/-- The least value of a signed type is read behind a zero, and up to a letter. -/
theorem IntType.number_exact_least :
    (Grammar.number (.int (.signed .w8)) rfl : Grammar .bytes Int).parse
        (Utf8.encode ['-', '0', '1', '2', '8', 'x']) = .done (-128) (Utf8.encode ['x']) ∧
      (Grammar.number (.int (.signed .w8)) rfl : Grammar .bytes Int).print (-128) [] =
        .done () (Utf8.encode ['-', '1', '2', '8']) := by
  obtain ⟨-, hRead, hWrite, -⟩ := IntType.number_exact (.signed .w8) (v := .bytes) rfl
  have hFront : View.bytes.NumeralFront (Utf8.encode ['-', '0', '1', '2', '8', 'x']) true
      ['0', '1', '2', '8'] (Utf8.encode ['x']) :=
    ⟨rfl, List.all_eq_true.1 rfl, nofun, (Test.stopsAt_ofChar_iff (fun _ => toNat_lt_of_isDigit)
      rfl).1 (Test.stopsAt_of_next? rfl rfl)⟩
  have hNames : (IntType.signed .w8).Names true ['0', '1', '2', '8'] :=
    ⟨by decide, fun _ => ⟨.w8, rfl⟩, by decide, by decide⟩
  exact ⟨(hRead _ _ _ _ hFront).1 hNames, hWrite (-128) ⟨by decide, by decide⟩ []⟩

end Integers

end TwoWay
