import TwoWay.Proofs.Reading.Suffix

/-!
# Readings that consume

A grammar consumes if, whenever it is read, less is left than there was. Whether it does can often
be told from how it is built: every leaf but an empty literal, a run of no least number and the ones
that stand for nothing consumes, a sequence does if one of its sides does, and a repetition does if
its element does and at least one is needed. The test errs on the side of saying no.

* `Step.Consumes`: a step on lists that, whenever it is done, leaves a shorter list.
* `takeRun_length_le`: a run takes at least one atom for each of its tokens.
* `Chain.length_lt`: so does a chain of elements that consume.
* `Bridge.consumes_read`: consuming carries over to another view.
* `Grammar.isConsuming`: the test; `Grammar.consumes_parse`: a grammar that passes it consumes.
-/

namespace TwoWay

/-! ## Steps that consume -/

/-- Whenever the step is done, it leaves less than there was. -/
def Step.Consumes {A α : Type} (p : Step (List A) α) : Prop :=
  ∀ s a rest, p s = .done a rest → rest.length < s.length

section Steps

variable {A α β ρ : Type} {failure : Failure}

open Step (Advances Consumes Restores)

namespace Step.Consumes

theorem map {p : Step (List A) α} (hp : Consumes p) (f : α → β) : Consumes (Step.map f p) := by
  intro s b rest h
  obtain ⟨a, hDone, -⟩ := Outcome.map_eq_done_iff.1 h
  exact hp s a rest hDone

theorem andThen_left {undo : List A → List A → List A} {p : Step (List A) α}
    {q : Step (List A) β} (hp : Consumes p) (hq : Advances q) :
    Consumes (Step.andThen undo p q) := by
  rintro s ⟨a, b⟩ rest h
  obtain ⟨s₁, hFirst, hSecond⟩ := andThen_eq_done_iff.1 h
  exact Nat.lt_of_le_of_lt (hq s₁ b rest hSecond).length_le (hp s a s₁ hFirst)

theorem andThen_right {undo : List A → List A → List A} {p : Step (List A) α}
    {q : Step (List A) β} (hp : Advances p) (hq : Consumes q) :
    Consumes (Step.andThen undo p q) := by
  rintro s ⟨a, b⟩ rest h
  obtain ⟨s₁, hFirst, hSecond⟩ := andThen_eq_done_iff.1 h
  exact Nat.lt_of_lt_of_le (hq s₁ b rest hSecond) (hp s a s₁ hFirst).length_le

theorem orElse {p q : Step (List A) α} (hp : Consumes p) (hq : Consumes q)
    (hRestores : Restores failure p) : Consumes (Step.orElse p q) := by
  intro s a rest h
  rcases orElse_eq_done_iff.1 h with hFirst | ⟨first, s₁, hFirst, hSecond⟩
  · exact hp s a rest hFirst
  · obtain ⟨-, rfl⟩ := hRestores s first s₁ hFirst
    exact hq s₁ a rest hSecond

end Step.Consumes

/-! ## Repetitions -/

variable {element : Step (List A) α} {separator : Step (List A) Unit} {bounds : Bounds}
  {start : List A}

/-- With an element that consumes, a chain of at least one round gets past where it started. -/
theorem Chain.length_lt (hElement : Consumes element) (hAdvances : Advances element)
    (hSeparator : Advances separator) {values : List α} {mark pos : List A}
    (h : Chain element separator start values mark pos) (hSome : values ≠ []) :
    mark.length < start.length := by
  cases h with
  | start => exact absurd rfl hSome
  | round prior hDone hSeparated =>
    have hPos := (prior.advances hAdvances hSeparator).2.length_le
    exact Nat.lt_of_lt_of_le (hElement _ _ _ hDone) hPos

theorem Chain.Stops.length_lt (hElement : Consumes element) (hAdvances : Advances element)
    (hSeparator : Advances separator) {values : List α} {mark : List A}
    (h : Chain.Stops element separator bounds start values mark) (hSome : values ≠ []) :
    mark.length < start.length := by
  cases h with
  | full chain hFull => exact chain.length_lt hElement hAdvances hSeparator hSome
  | element chain hRoom hFailed => exact chain.length_lt hElement hAdvances hSeparator hSome
  | separator chain hRoom hDone hFailed =>
    have hPos := (chain.advances hAdvances hSeparator).2.length_le
    exact Nat.lt_of_lt_of_le (hElement _ _ _ hDone) hPos

theorem Step.Consumes.readMany (hElement : Consumes element) (hAdvances : Advances element)
    (hSeparator : Advances separator) (size : List A → Nat) (hLeast : 0 < bounds.least)
    (acc : Accumulator α ρ) : Consumes (readMany size element separator bounds acc) := by
  intro s value rest h
  obtain ⟨-, values, hStops, hAllows, -⟩ := readMany_eq_done_iff.1 h
  have hLength := Nat.lt_of_lt_of_le hLeast (Bounds.allows_iff.1 hAllows).1
  exact hStops.length_lt hElement hAdvances hSeparator (List.length_pos_iff.1 hLength)

end Steps

/-! ## Leaves -/

section Leaves

open Step (Consumes)

variable {v : View} {α : Type}

theorem consumes_readToken (v : View) : Consumes (readToken v) :=
  fun _ _ _ h => v.length_lt_of_next? (readToken_eq_done_iff.1 h)

theorem consumes_readLiteral {literal : v.Text} (hSome : literal ≠ []) :
    Consumes (readLiteral literal) := by
  intro s found rest h
  rw [(readLiteral_eq_done_iff.1 h).1, List.length_append]
  have := List.length_pos_iff.2 hSome
  omega

theorem consumes_readLineEnd (v : View) : Consumes (readLineEnd v) := by
  have hLong : v.longLineEnd ≠ [] := by cases v <;> decide
  have hShort : v.shortLineEnd ≠ [] := by cases v <;> decide
  exact (consumes_readLiteral hLong).orElse (consumes_readLiteral hShort) (restores_readLiteral _)

/-- A run takes at least one atom for each of its tokens. -/
theorem takeRun_length_le {test : Test v} {limit : Option Nat} {text rest : v.Text}
    {tokens : List v.Token} (h : takeRun test limit text = .done tokens rest) :
    tokens.length + rest.length ≤ text.length := by
  fun_induction takeRun test limit text generalizing tokens with
  | case1 text => cases h; simp
  | case2 limit text hLimit hNext => cases h; simp
  | case3 limit text hLimit token after hNext fault hTest => cases h
  | case4 limit text hLimit token after hNext hTest => cases h; simp
  | case5 limit text hLimit token after hNext hTest hLess ih =>
    obtain ⟨more, hMore, rfl⟩ := Outcome.map_eq_done_iff.1 h
    have hAfter := ih hMore
    rw [List.length_cons]
    omega

theorem consumes_readRun (test : Test v) {bounds : Bounds} (hLeast : 0 < bounds.least) :
    Consumes (readRun test bounds) := by
  intro s run rest h
  obtain ⟨tokens, hTake, hEnough, -⟩ := readRun_eq_done_iff.1 h
  have hTaken := takeRun_length_le hTake
  omega

/-- The sign and the digits of a numeral that is not empty are taken off the text. -/
theorem takeNumeral_length_lt {text rest : v.Text} {numeral : List Char}
    (h : takeNumeral v text = .done numeral rest) (hSome : numeral ≠ []) :
    rest.length < text.length := by
  obtain ⟨⟨sign, digits⟩, hParts, rfl⟩ := Outcome.map_eq_done_iff.1 h
  obtain ⟨after, hSign, hDigits⟩ := Step.andThen_eq_done_iff.1 hParts
  have hSignTaken := takeRun_length_le hSign
  have hDigitsTaken := takeRun_length_le hDigits
  have hTokens : sign ++ digits ≠ [] := fun hNone => hSome (by simp [hNone])
  have hLength := List.length_pos_iff.2 hTokens
  rw [List.length_append] at hLength
  omega

theorem consumes_readNumber (v : View) {form : NumberForm α} (hForm : form.read? [] = none) :
    Consumes (readNumber v form) := by
  intro s value rest h
  unfold readNumber at h
  split at h
  · rename_i numeral after hNumeral
    split at h
    · rename_i found hFound
      cases h
      refine takeNumeral_length_lt hNumeral fun hEmpty => ?_
      rw [hEmpty, hForm] at hFound
      cases hFound
    · cases h
  · cases h
  · cases h

theorem consumes_readIdentifier (v : View) : Consumes (readIdentifier v) := by
  intro s name rest h
  unfold readIdentifier at h
  split at h
  · cases h
  · rename_i token after hNext
    split at h
    · obtain ⟨more, hMore, -⟩ := Outcome.map_eq_done_iff.1 h
      have hAfter := v.length_lt_of_next? hNext
      have hTaken := takeRun_length_le hMore
      omega
    · cases h

end Leaves

/-! ## Bridges -/

namespace View

theorem size_lt_of_suffix {v : View} {rest text : v.Text} (h : rest <:+ text)
    (hLess : rest.length < text.length) : v.size rest < v.size text := by
  refine Nat.lt_of_not_le fun hSize => ?_
  rw [eq_of_size_le h hSize] at hLess
  exact Nat.lt_irrefl _ hLess

/-- With some of its bytes gone, a text is shorter. -/
theorem lastBytes?_length_lt {v : View} {text rest : v.Text} {count : Nat}
    (h : v.lastBytes? text count = some rest) (hCount : count < v.size text) :
    rest.length < text.length := by
  obtain ⟨⟨front, back⟩, hCut, rfl⟩ := Option.map_eq_some_iff.1 h
  obtain ⟨rfl, hSize⟩ := v.eq_append_of_cut? hCut
  have hFront : front ≠ [] := by
    rintro rfl
    rw [size_nil] at hSize
    omega
  have := List.length_pos_iff.2 hFront
  show back.length < (front ++ back).length
  rw [List.length_append]
  omega

end View

theorem Utf8.length_encode_lt_of_suffix {rest text : List Char} (h : rest <:+ text)
    (hLess : rest.length < text.length) : (encode rest).length < (encode text).length := by
  rw [← View.size_spell .chars rest, ← View.size_spell .chars text]
  exact View.size_lt_of_suffix (v := .chars) h hLess

section Bridges

open Step (Advances Consumes)

variable {v w : View} {α : Type}

theorem consumes_readTextOnBytes {size : List Char → Nat}
    (hSize : ∀ text, size text = (Utf8.encode text).length) {p : Step (List Char) α}
    (hp : Consumes p) (hAdvances : Advances p) : Consumes (readTextOnBytes size p) := by
  intro bytes a rest h
  obtain ⟨left, hDone, rfl⟩ := Outcome.mapState_eq_done_iff.1 h
  have hLess := Utf8.length_encode_lt_of_suffix (hAdvances _ a left hDone) (hp _ a left hDone)
  have hBytes := congrArg List.length (Utf8.encode_splitText bytes)
  rw [List.length_append] at hBytes
  rw [List.length_drop, hSize, hSize]
  omega

theorem consumes_readBytesOnText {restOf? : List Char → Nat → Option (List Char)}
    (hRest : ∀ text count rest, restOf? text count = some rest →
      count < (Utf8.encode text).length → rest.length < text.length)
    {p : Step (List UInt8) α} (hp : Consumes p) : Consumes (readBytesOnText restOf? p) := by
  intro text a rest h
  unfold readBytesOnText at h
  split at h
  · rename_i found left hDone
    split at h
    · rename_i last hLast
      cases h
      exact hRest text _ rest hLast (hp _ a left hDone)
    · cases h
  · split at h <;> cases h
  · cases h

theorem Bridge.consumes_read (bridge : Bridge w v) {p : Step w.Text α} (hp : Consumes p)
    (hAdvances : Advances p) : Consumes (bridge.read p) := by
  cases bridge with
  | graphemesToChars => exact hp
  | graphemesToBytes =>
    exact consumes_readTextOnBytes (View.size_spell .graphemes) hp hAdvances
  | charsToBytes => exact consumes_readTextOnBytes (View.size_spell .chars) hp hAdvances
  | bytesToGraphemes =>
    refine consumes_readBytesOnText (fun text count rest hRest hCount => ?_) hp
    rw [← View.size_spell .graphemes] at hCount
    exact View.lastBytes?_length_lt (v := .graphemes) hRest hCount
  | bytesToChars =>
    refine consumes_readBytesOnText (fun text count rest hRest hCount => ?_) hp
    rw [← View.size_spell .chars] at hCount
    exact View.lastBytes?_length_lt (v := .chars) hRest hCount

end Bridges

/-! ## Grammars -/

namespace Grammar

/-- Whether the way a grammar is built makes sure that it consumes. -/
def isConsuming : {v : View} → {α : Type} → Grammar v α → Bool
  | _, _, always _ | _, _, finish | _, _, optional _ => false
  | _, _, token | _, _, lineEnd | _, _, identifier _ => true
  | _, _, literal text => !text.isEmpty
  | _, _, run _ bounds => 0 < bounds.least
  | _, _, number form _ => (form.read? []).isNone
  | _, _, pair first second => first.isConsuming || second.isConsuming
  | _, _, skipThen first second => first.isConsuming || second.isConsuming
  | _, _, thenSkip first second => first.isConsuming || second.isConsuming
  | _, _, orElse first second => first.isConsuming && second.isConsuming
  | _, _, map _ grammar => grammar.isConsuming
  | _, _, convert _ _ grammar => grammar.isConsuming
  | _, _, writtenBy reader _ => reader.isConsuming
  | _, _, many element _ bounds _ => 0 < bounds.least && element.isConsuming
  | _, _, across _ grammar => grammar.isConsuming

open Step (Consumes)

variable {v : View} {α β : Type}

theorem consumes_andThen {first : Grammar v α} {second : Grammar v β}
    (hFirst : first.isConsuming = true → Consumes first.parse)
    (hSecond : second.isConsuming = true → Consumes second.parse)
    (h : (first.isConsuming || second.isConsuming) = true) :
    Consumes (Step.andThen v.restart first.parse second.parse) := by
  rcases Bool.or_eq_true_iff.1 h with h | h
  · exact (hFirst h).andThen_left second.advances_parse
  · exact Step.Consumes.andThen_right first.advances_parse (hSecond h)

/-- **A grammar that passes the test consumes.** -/
theorem consumes_parse (grammar : Grammar v α) :
    grammar.isConsuming = true → Consumes grammar.parse := by
  induction grammar with
  | always value => exact fun h => nomatch h
  | finish => exact fun h => nomatch h
  | token => exact fun _ => consumes_readToken _
  | literal text => exact fun h => consumes_readLiteral (by simpa [isConsuming] using h)
  | lineEnd => exact fun _ => consumes_readLineEnd _
  | run test bounds => exact fun h => consumes_readRun test (of_decide_eq_true h)
  | number form h => exact fun h => consumes_readNumber _ (Option.isNone_iff_eq_none.1 h)
  | identifier h => exact fun _ => consumes_readIdentifier _
  | pair first second hFirst hSecond => exact consumes_andThen hFirst hSecond
  | skipThen first second hFirst hSecond =>
    exact fun h => (consumes_andThen hFirst hSecond h).map _
  | thenSkip first second hFirst hSecond =>
    exact fun h => (consumes_andThen hFirst hSecond h).map _
  | orElse first second hFirst hSecond =>
    intro h
    obtain ⟨h₁, h₂⟩ := Bool.and_eq_true_iff.1 h
    exact (hFirst h₁).orElse (hSecond h₂) first.restores_parse
  | optional grammar h => exact fun h => nomatch h
  | map f grammar h => exact fun hConsuming => (h hConsuming).map f
  | convert apply unapply grammar h => exact fun hConsuming => (h hConsuming).map apply
  | writtenBy reader writer hReader hWriter => exact fun h => (hReader h).map _
  | many element separator bounds acc hElement hSeparator =>
    intro h
    obtain ⟨hLeast, hConsuming⟩ := Bool.and_eq_true_iff.1 h
    exact (hElement hConsuming).readMany element.advances_parse separator.advances_parse _
      (of_decide_eq_true hLeast) acc
  | across bridge grammar h =>
    exact fun hConsuming => bridge.consumes_read (h hConsuming) grammar.advances_parse

end Grammar

end TwoWay
