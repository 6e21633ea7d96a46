import TwoWay.Proofs.Reading.Motion

/-!
# Readings only move forward

What a grammar leaves of a text is an end of that text, in every view. So what is left is never
longer than the text, and it is the whole text when it has as many bytes (`eq_of_size_le`): a
position is known by the size of what is left there.

* `Step.Advances`: a step on lists that, whenever it is done, leaves an end of what it started with.
* `Chain.advances`: the places along a chain are ends of each other if this holds of the element and
  the separator.
* `Grammar.advances_parse`: it holds of every grammar.
-/

namespace TwoWay

/-! ## Steps that advance -/

/-- Whenever the step is done, it leaves an end of the list it started with. -/
def Step.Advances {A α : Type} (p : Step (List A) α) : Prop :=
  ∀ s a rest, p s = .done a rest → rest <:+ s

section Steps

variable {A α β ρ : Type} {failure : Failure}

open Step (Advances MovesBy Restores)

theorem Step.advances_pure (a : α) : Advances (Step.pure a : Step (List A) α) :=
  Step.movesBy_pure List.suffix_refl a

namespace Step.Advances

theorem map {p : Step (List A) α} (hp : Advances p) (f : α → β) : Advances (Step.map f p) :=
  MovesBy.map hp f

theorem andThen {undo : List A → List A → List A} {p : Step (List A) α} {q : Step (List A) β}
    (hp : Advances p) (hq : Advances q) : Advances (Step.andThen undo p q) :=
  MovesBy.andThen (R := (· <:+ ·)) List.IsSuffix.trans hp hq

theorem orElse {p q : Step (List A) α} (hp : Advances p) (hq : Advances q)
    (hRestores : Restores failure p) : Advances (Step.orElse p q) :=
  MovesBy.orElse hp hq hRestores

theorem attempt {p : Step (List A) α} (hp : Advances p) (hRestores : Restores failure p) :
    Advances (Step.attempt p) :=
  MovesBy.attempt List.suffix_refl hp hRestores

end Step.Advances

/-! ## Repetitions -/

variable {element : Step (List A) α} {separator : Step (List A) Unit} {bounds : Bounds}
  {start : List A}

theorem Chain.advances (hElement : Advances element) (hSeparator : Advances separator)
    {values : List α} {mark pos : List A} (h : Chain element separator start values mark pos) :
    mark <:+ start ∧ pos <:+ start :=
  h.movesBy List.suffix_refl List.IsSuffix.trans hElement hSeparator

theorem Step.Advances.readMany (hElement : Advances element) (hSeparator : Advances separator)
    (size : List A → Nat) (bounds : Bounds) (acc : Accumulator α ρ) :
    Advances (readMany size element separator bounds acc) :=
  MovesBy.readMany List.suffix_refl List.IsSuffix.trans hElement hSeparator size bounds acc

end Steps

/-! ## Leaves -/

section Leaves

open Step (Advances)

variable {v : View} {α : Type}

theorem advances_readToken (v : View) : Advances (readToken v) := by
  intro s token rest h
  rw [(v.next?_eq_some (readToken_eq_done_iff.1 h)).1]
  exact List.suffix_append _ _

theorem advances_readEnd (v : View) : Advances (readEnd v) := by
  intro s found rest h
  obtain ⟨rfl, rfl⟩ := readEnd_eq_done_iff.1 h
  exact List.suffix_rfl

theorem advances_readLiteral (literal : v.Text) : Advances (readLiteral literal) := by
  intro s found rest h
  rw [(readLiteral_eq_done_iff.1 h).1]
  exact List.suffix_append _ _

theorem advances_readLineEnd (v : View) : Advances (readLineEnd v) :=
  (advances_readLiteral _).orElse (advances_readLiteral _) (restores_readLiteral _)

theorem advances_takeRun (test : Test v) (limit : Option Nat) : Advances (takeRun test limit) := by
  intro s tokens rest h
  rw [takeRun_eq_done h]
  exact List.suffix_append _ _

theorem advances_readRun (test : Test v) (bounds : Bounds) : Advances (readRun test bounds) := by
  intro s run rest h
  obtain ⟨tokens, hTake, -, -⟩ := readRun_eq_done_iff.1 h
  exact advances_takeRun test _ s tokens rest hTake

theorem advances_takeNumeral (v : View) : Advances (takeNumeral v) :=
  ((advances_takeRun _ _).andThen (advances_takeRun _ _)).map _

theorem advances_readNumber (v : View) (form : NumberForm α) : Advances (readNumber v form) := by
  intro s value rest h
  unfold readNumber at h
  split at h
  · rename_i numeral after hNumeral
    split at h
    · cases h
      exact advances_takeNumeral v s numeral rest hNumeral
    · cases h
  · cases h
  · cases h

theorem advances_readIdentifier (v : View) : Advances (readIdentifier v) := by
  intro s name rest h
  rw [readIdentifier_eq_done h]
  exact List.suffix_append _ _

end Leaves

/-! ## Bridges -/

section Bridges

open Step (Advances)

variable {v w : View} {α : Type}

theorem advances_readTextOnBytes (size : List Char → Nat) (p : Step (List Char) α) :
    Advances (readTextOnBytes size p) := by
  intro bytes a rest h
  obtain ⟨left, -, rfl⟩ := Outcome.mapState_eq_done_iff.1 h
  exact List.drop_suffix _ _

theorem lastBytes?_suffix (v : View) (text : v.Text) (count : Nat) (rest : v.Text)
    (h : v.lastBytes? text count = some rest) : rest <:+ text := by
  obtain ⟨⟨front, back⟩, hCut, rfl⟩ := Option.map_eq_some_iff.1 h
  rw [(v.eq_append_of_cut? hCut).1]
  exact List.suffix_append _ _

theorem advances_readBytesOnText {restOf? : List Char → Nat → Option (List Char)}
    (hRest : ∀ text count rest, restOf? text count = some rest → rest <:+ text)
    (p : Step (List UInt8) α) : Advances (readBytesOnText restOf? p) := by
  intro text a rest h
  unfold readBytesOnText at h
  split at h
  · split at h
    · rename_i found hFound
      cases h
      exact hRest text _ rest hFound
    · cases h
  · split at h <;> cases h
  · cases h

theorem Bridge.advances_read (bridge : Bridge w v) {p : Step w.Text α} (hp : Advances p) :
    Advances (bridge.read p) := by
  cases bridge with
  | graphemesToChars => exact hp
  | graphemesToBytes => exact advances_readTextOnBytes _ p
  | charsToBytes => exact advances_readTextOnBytes _ p
  | bytesToGraphemes => exact advances_readBytesOnText (lastBytes?_suffix .graphemes) p
  | bytesToChars => exact advances_readBytesOnText (lastBytes?_suffix .chars) p

end Bridges

/-! ## Grammars -/

theorem Grammar.advances_parse {v : View} {α : Type} (grammar : Grammar v α) :
    Step.Advances grammar.parse := by
  induction grammar with
  | always value => exact Step.advances_pure value
  | finish => exact advances_readEnd _
  | token => exact advances_readToken _
  | literal text => exact advances_readLiteral text
  | lineEnd => exact advances_readLineEnd _
  | run test bounds => exact advances_readRun test bounds
  | number form h => exact advances_readNumber _ form
  | identifier h => exact advances_readIdentifier _
  | pair first second hFirst hSecond => exact hFirst.andThen hSecond
  | skipThen first second hFirst hSecond => exact (hFirst.andThen hSecond).map _
  | thenSkip first second hFirst hSecond => exact (hFirst.andThen hSecond).map _
  | orElse first second hFirst hSecond => exact hFirst.orElse hSecond first.restores_parse
  | optional grammar h => exact h.attempt grammar.restores_parse
  | map f grammar h => exact h.map f
  | convert apply unapply grammar h => exact h.map apply
  | writtenBy reader writer hReader hWriter => exact hReader.map _
  | many element separator bounds acc hElement hSeparator =>
    exact hElement.readMany hSeparator _ bounds acc
  | across bridge grammar h => exact bridge.advances_read h

/-! ## Sizes -/

namespace View

variable {v : View}

theorem size_le_of_suffix {rest text : v.Text} (h : rest <:+ text) : v.size rest ≤ v.size text := by
  obtain ⟨front, rfl⟩ := h
  rw [size_append]
  omega

/-- An end of a text with as many bytes is the text. -/
theorem eq_of_size_le {rest text : v.Text} (h : rest <:+ text) (hSize : v.size text ≤ v.size rest) :
    rest = text := by
  obtain ⟨front, rfl⟩ := h
  have hFront : v.size front = 0 := by
    rw [size_append] at hSize
    omega
  rw [v.size_eq_zero_iff.1 hFront, List.nil_append]

end View

end TwoWay
