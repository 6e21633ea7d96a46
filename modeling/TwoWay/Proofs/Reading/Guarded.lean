import TwoWay.Proofs.Reading.Consumption

/-!
# Grammars that never stand still

A repetition is given up when its element and its separator are both read and nothing is consumed.
That hangs on the text that is read, but it is excluded for every text when the element or the
separator consumes. So a grammar in which this can be told of every repetition only ends in a fault
when one of its own tests does.

* `Step.AbortsOnly`: a step whose faults are among some.
* `Step.AbortsOnly.readMany`: a repetition that moves in every round adds no fault of its own.
* `Grammar.Raises`: the faults that the tests of a grammar answer with.
* `Grammar.isGuarded`: whether every repetition has an element or a separator that consumes, as far
  as `Grammar.isConsuming` tells.
* `Grammar.abortsOnly_parse`: a guarded grammar has no other faults than its tests.
-/

namespace TwoWay

/-! ## Faults of a step -/

/-- All the faults that the step ends in are among the given ones. -/
def Step.AbortsOnly {σ α : Type} (faults : Fault → Prop) (p : Step σ α) : Prop :=
  ∀ s fault, p s = .aborted fault → faults fault

section Steps

variable {σ α β ρ : Type} {faults faults' : Fault → Prop}

open Step (AbortsOnly)

theorem Step.abortsOnly_of_ne {p : Step σ α} (h : ∀ s fault, p s ≠ .aborted fault) :
    AbortsOnly faults p :=
  fun s fault hp => absurd hp (h s fault)

theorem Step.abortsOnly_pure (a : α) : AbortsOnly faults (pure a : Step σ α) :=
  abortsOnly_of_ne fun _ _ h => nomatch h

namespace Step.AbortsOnly

theorem map {p : Step σ α} (hp : AbortsOnly faults p) (f : α → β) :
    AbortsOnly faults (Step.map f p) :=
  fun s fault h => hp s fault (Outcome.map_eq_aborted_iff.1 h)

theorem andThen {undo : σ → σ → σ} {p : Step σ α} {q : Step σ β} (hp : AbortsOnly faults p)
    (hq : AbortsOnly faults' q) :
    AbortsOnly (fun fault => faults fault ∨ faults' fault) (Step.andThen undo p q) := by
  intro s fault h
  rcases andThen_eq_aborted_iff.1 h with hFirst | ⟨a, s₁, -, hSecond⟩
  · exact Or.inl (hp s fault hFirst)
  · exact Or.inr (hq s₁ fault hSecond)

theorem orElse {p q : Step σ α} (hp : AbortsOnly faults p) (hq : AbortsOnly faults' q) :
    AbortsOnly (fun fault => faults fault ∨ faults' fault) (Step.orElse p q) := by
  intro s fault h
  rcases orElse_eq_aborted_iff.1 h with hFirst | ⟨failure, s₁, -, hSecond⟩
  · exact Or.inl (hp s fault hFirst)
  · exact Or.inr (hq s₁ fault hSecond)

theorem attempt {p : Step σ α} (hp : AbortsOnly faults p) : AbortsOnly faults (Step.attempt p) :=
  fun s fault h => hp s fault (attempt_eq_aborted_iff.1 h)

/-- A repetition all of whose rounds leave less adds no fault to those of its element and its
separator. -/
theorem readMany {size : σ → Nat} {element : Step σ α} {separator : Step σ Unit}
    (hElement : AbortsOnly faults element) (hSeparator : AbortsOnly faults' separator)
    (hMoves : ∀ pos a next after, element pos = .done a next → separator next = .done () after →
      size after < size pos) (bounds : Bounds) (acc : Accumulator α ρ) :
    AbortsOnly (fun fault => faults fault ∨ faults' fault)
      (readMany size element separator bounds acc) := by
  intro s fault h
  rcases readMany_eq_aborted_iff.1 h with ⟨⟨pos, after, hRound, hLe⟩, -⟩ | ⟨-, hBreaks⟩
  · cases hRound with
    | intro chain hRoom hDone hSeparated =>
      exact absurd hLe (Nat.not_le_of_lt (hMoves _ _ _ _ hDone hSeparated))
  · cases hBreaks with
    | element chain hRoom hAborted => exact Or.inl (hElement _ _ hAborted)
    | separator chain hRoom hDone hAborted => exact Or.inr (hSeparator _ _ hAborted)

end Step.AbortsOnly

end Steps

/-! ## Leaves -/

section Leaves

open Step (AbortsOnly)

variable {v : View} {α : Type} {faults : Fault → Prop}

theorem abortsOnly_readToken (v : View) : AbortsOnly faults (readToken v) := by
  intro s fault h
  unfold readToken at h
  split at h <;> cases h

theorem abortsOnly_readEnd (v : View) : AbortsOnly faults (readEnd v) := by
  intro s fault h
  unfold readEnd at h
  split at h <;> cases h

theorem readLiteral_ne_aborted (literal text : v.Text) (fault : Fault) :
    readLiteral literal text ≠ .aborted fault := by
  unfold readLiteral
  split
  · split <;> simp
  · simp

theorem abortsOnly_readLiteral (literal : v.Text) : AbortsOnly faults (readLiteral literal) :=
  Step.abortsOnly_of_ne (readLiteral_ne_aborted literal)

theorem abortsOnly_readLineEnd (v : View) : AbortsOnly faults (readLineEnd v) := by
  intro s fault h
  rcases Step.orElse_eq_aborted_iff.1 h with hLong | ⟨failure, s₁, -, hShort⟩
  · exact absurd hLong (readLiteral_ne_aborted _ _ _)
  · exact absurd hShort (readLiteral_ne_aborted _ _ _)

/-- The faults of a run are answers of its test. -/
theorem abortsOnly_takeRun (test : Test v) (limit : Option Nat) :
    AbortsOnly (fun fault => ∃ token, test token = .error fault) (takeRun test limit) := by
  intro text fault h
  fun_induction takeRun test limit text with
  | case1 text => cases h
  | case2 limit text hLimit hNext => cases h
  | case3 limit text hLimit token after hNext found hTest =>
    cases h
    exact ⟨token, hTest⟩
  | case4 limit text hLimit token after hNext hTest => cases h
  | case5 limit text hLimit token after hNext hTest hLess ih =>
    exact ih (Outcome.map_eq_aborted_iff.1 h)

theorem takeRun_ofPred_ne_aborted (accepts : v.Token → Bool) (limit : Option Nat) (text : v.Text)
    (fault : Fault) : takeRun (Test.ofPred accepts) limit text ≠ .aborted fault := by
  intro h
  obtain ⟨token, hTest⟩ := abortsOnly_takeRun _ limit text fault h
  cases hTest

theorem abortsOnly_readRun (test : Test v) (bounds : Bounds) :
    AbortsOnly (fun fault => ∃ token, test token = .error fault) (readRun test bounds) := by
  intro s fault h
  unfold readRun at h
  split at h
  · split at h <;> cases h
  · cases h
  · rename_i found hRun
    cases h
    exact abortsOnly_takeRun test _ s fault hRun

theorem abortsOnly_readNumber (v : View) (form : NumberForm α) :
    AbortsOnly faults (readNumber v form) := by
  intro s fault h
  unfold readNumber at h
  split at h
  · split at h <;> cases h
  · cases h
  · rename_i found hNumeral
    rcases Step.andThen_eq_aborted_iff.1 (Outcome.map_eq_aborted_iff.1 hNumeral) with
      hSign | ⟨sign, after, -, hDigits⟩
    · exact absurd hSign (takeRun_ofPred_ne_aborted _ _ _ _)
    · exact absurd hDigits (takeRun_ofPred_ne_aborted _ _ _ _)

theorem abortsOnly_readIdentifier (v : View) : AbortsOnly faults (readIdentifier v) := by
  intro s fault h
  unfold readIdentifier at h
  split at h
  · cases h
  · split at h
    · exact absurd (Outcome.map_eq_aborted_iff.1 h) (takeRun_ofPred_ne_aborted _ _ _ _)
    · cases h

end Leaves

/-! ## Bridges -/

section Bridges

open Step (AbortsOnly)

variable {v w : View} {α : Type} {faults : Fault → Prop}

theorem abortsOnly_readTextOnBytes (size : List Char → Nat) {p : Step (List Char) α}
    (hp : AbortsOnly faults p) : AbortsOnly faults (readTextOnBytes size p) :=
  fun _ fault h => hp _ fault (Outcome.mapState_eq_aborted_iff.1 h)

theorem abortsOnly_readBytesOnText (restOf? : List Char → Nat → Option (List Char))
    {p : Step (List UInt8) α} (hp : AbortsOnly faults p) :
    AbortsOnly faults (readBytesOnText restOf? p) := by
  intro text fault h
  unfold readBytesOnText at h
  split at h
  · split at h <;> cases h
  · split at h <;> cases h
  · rename_i found hAborted
    cases h
    exact hp _ fault hAborted

theorem Bridge.abortsOnly_read (bridge : Bridge w v) {p : Step w.Text α}
    (hp : AbortsOnly faults p) : AbortsOnly faults (bridge.read p) := by
  cases bridge with
  | graphemesToChars => exact hp
  | graphemesToBytes => exact abortsOnly_readTextOnBytes _ hp
  | charsToBytes => exact abortsOnly_readTextOnBytes _ hp
  | bytesToGraphemes => exact abortsOnly_readBytesOnText _ hp
  | bytesToChars => exact abortsOnly_readBytesOnText _ hp

end Bridges

/-! ## Grammars -/

namespace Grammar

open Step (AbortsOnly Consumes)

/-- The faults that tests of a grammar answer with when it is read. -/
def Raises : {v : View} → {α : Type} → Grammar v α → Fault → Prop
  | _, _, always _, _ | _, _, finish, _ | _, _, token, _ | _, _, literal _, _ => False
  | _, _, lineEnd, _ | _, _, number _ _, _ | _, _, identifier _, _ => False
  | _, _, run test _, fault => ∃ token, test token = .error fault
  | _, _, pair first second, fault => first.Raises fault ∨ second.Raises fault
  | _, _, skipThen first second, fault => first.Raises fault ∨ second.Raises fault
  | _, _, thenSkip first second, fault => first.Raises fault ∨ second.Raises fault
  | _, _, orElse first second, fault => first.Raises fault ∨ second.Raises fault
  | _, _, optional grammar, fault => grammar.Raises fault
  | _, _, map _ grammar, fault => grammar.Raises fault
  | _, _, convert _ _ grammar, fault => grammar.Raises fault
  | _, _, writtenBy reader _, fault => reader.Raises fault
  | _, _, many element separator _ _, fault => element.Raises fault ∨ separator.Raises fault
  | _, _, across _ grammar, fault => grammar.Raises fault

/-- Whether every repetition that is read has an element or a separator that consumes, as far as
the way they are built tells. -/
def isGuarded : {v : View} → {α : Type} → Grammar v α → Bool
  | _, _, always _ | _, _, finish | _, _, token | _, _, literal _ => true
  | _, _, lineEnd | _, _, run _ _ | _, _, number _ _ | _, _, identifier _ => true
  | _, _, pair first second => first.isGuarded && second.isGuarded
  | _, _, skipThen first second => first.isGuarded && second.isGuarded
  | _, _, thenSkip first second => first.isGuarded && second.isGuarded
  | _, _, orElse first second => first.isGuarded && second.isGuarded
  | _, _, optional grammar => grammar.isGuarded
  | _, _, map _ grammar => grammar.isGuarded
  | _, _, convert _ _ grammar => grammar.isGuarded
  | _, _, writtenBy reader _ => reader.isGuarded
  | _, _, many element separator _ _ =>
    (element.isConsuming || separator.isConsuming) && element.isGuarded && separator.isGuarded
  | _, _, across _ grammar => grammar.isGuarded

variable {v : View} {α ρ : Type}

/-- A round in which the element or the separator consumes leaves fewer bytes. -/
theorem size_lt_of_round {element : Grammar v α} {separator : Grammar v Unit}
    (hConsumes : Consumes element.parse ∨ Consumes separator.parse) {a : α}
    {pos next after : v.Text} (hElement : element.parse pos = .done a next)
    (hSeparator : separator.parse next = .done () after) : v.size after < v.size pos := by
  have hNext := element.advances_parse _ _ _ hElement
  have hAfter := separator.advances_parse _ _ _ hSeparator
  refine View.size_lt_of_suffix (hAfter.trans hNext) ?_
  rcases hConsumes with hConsumes | hConsumes
  · exact Nat.lt_of_le_of_lt hAfter.length_le (hConsumes _ _ _ hElement)
  · exact Nat.lt_of_lt_of_le (hConsumes _ _ _ hSeparator) hNext.length_le

theorem not_stalls_of_consumes {element : Grammar v α} {separator : Grammar v Unit}
    {bounds : Bounds} (hConsumes : Consumes element.parse ∨ Consumes separator.parse)
    (start : v.Text) : ¬ Chain.Stalls v.size element.parse separator.parse bounds start := by
  rintro ⟨pos, after, ⟨chain, hRoom, hElement, hSeparator⟩, hLe⟩
  have := size_lt_of_round hConsumes hElement hSeparator
  omega

theorem abortsOnly_many {element : Grammar v α} {separator : Grammar v Unit}
    (hElement : AbortsOnly element.Raises element.parse)
    (hSeparator : AbortsOnly separator.Raises separator.parse)
    (hConsumes : Consumes element.parse ∨ Consumes separator.parse) (bounds : Bounds)
    (acc : Accumulator α ρ) :
    AbortsOnly (many element separator bounds acc).Raises
      (many element separator bounds acc).parse :=
  hElement.readMany hSeparator (fun _ _ _ _ => size_lt_of_round hConsumes) bounds acc

/-- **A guarded grammar has no other faults than its tests.** -/
theorem abortsOnly_parse (grammar : Grammar v α) :
    grammar.isGuarded = true → AbortsOnly grammar.Raises grammar.parse := by
  induction grammar with
  | always value => exact fun _ => Step.abortsOnly_pure value
  | finish => exact fun _ => abortsOnly_readEnd _
  | token => exact fun _ => abortsOnly_readToken _
  | literal text => exact fun _ => abortsOnly_readLiteral text
  | lineEnd => exact fun _ => abortsOnly_readLineEnd _
  | run test bounds => exact fun _ => abortsOnly_readRun test bounds
  | number form h => exact fun _ => abortsOnly_readNumber _ form
  | identifier h => exact fun _ => abortsOnly_readIdentifier _
  | pair first second hFirst hSecond =>
    intro h
    obtain ⟨h₁, h₂⟩ := Bool.and_eq_true_iff.1 h
    exact (hFirst h₁).andThen (hSecond h₂)
  | skipThen first second hFirst hSecond =>
    intro h
    obtain ⟨h₁, h₂⟩ := Bool.and_eq_true_iff.1 h
    exact ((hFirst h₁).andThen (hSecond h₂)).map _
  | thenSkip first second hFirst hSecond =>
    intro h
    obtain ⟨h₁, h₂⟩ := Bool.and_eq_true_iff.1 h
    exact ((hFirst h₁).andThen (hSecond h₂)).map _
  | orElse first second hFirst hSecond =>
    intro h
    obtain ⟨h₁, h₂⟩ := Bool.and_eq_true_iff.1 h
    exact (hFirst h₁).orElse (hSecond h₂)
  | optional grammar h => exact fun hGuarded => (h hGuarded).attempt
  | map f grammar h => exact fun hGuarded => (h hGuarded).map f
  | convert apply unapply grammar h => exact fun hGuarded => (h hGuarded).map apply
  | writtenBy reader writer hReader hWriter => exact fun h => (hReader h).map _
  | many element separator bounds acc hElement hSeparator =>
    intro h
    simp only [isGuarded, Bool.and_eq_true, Bool.or_eq_true] at h
    obtain ⟨⟨hConsuming, h₁⟩, h₂⟩ := h
    exact abortsOnly_many (hElement h₁) (hSeparator h₂)
      (hConsuming.imp element.consumes_parse separator.consumes_parse) bounds acc
  | across bridge grammar h => exact fun hGuarded => bridge.abortsOnly_read (h hGuarded)

/-- **What the tests of a grammar promise.**  A grammar that is built to consume leaves fewer bytes
than there were whenever it is read. In a guarded grammar no repetition stands still, whatever the
text: only a test that is asked, and which may itself have run a repetition, could report that one
did. -/
theorem guarded_progress (g : Grammar v α) (text : v.Text) :
    (g.isConsuming = true → ∀ value rest, g.parse text = .done value rest →
      v.size rest < v.size text) ∧
    (g.isGuarded = true → ¬ g.Raises .noProgress → g.parse text ≠ .aborted .noProgress) := by
  refine ⟨fun hConsuming value rest hDone => ?_, fun hGuarded hTests hAborted => ?_⟩
  · exact View.size_lt_of_suffix (g.advances_parse _ _ _ hDone)
      (g.consumes_parse hConsuming _ _ _ hDone)
  · exact hTests (g.abortsOnly_parse hGuarded text .noProgress hAborted)

/-- A row with its line end, of cells that may all be empty, in bytes that are no text at the
end. -/
theorem guarded_progress_row :
    let g : Grammar .bytes (List (List Char)) :=
      .across .charsToBytes (.thenSkip Format.row .lineEnd)
    g.isConsuming = true ∧ g.parse [0x2C, 0x0A, 0xFF] = .done [[], []] [0xFF] ∧
      View.bytes.size [0xFF] < View.bytes.size [0x2C, 0x0A, 0xFF] ∧
      g.isGuarded = true ∧ ¬ g.Raises .noProgress ∧
      g.parse [0x2C, 0x0A, 0xFF] ≠ .aborted .noProgress := by
  intro g
  have hDone : g.parse [0x2C, 0x0A, 0xFF] = .done [[], []] [0xFF] := by decide +kernel
  have hTests : ¬ g.Raises .noProgress := by
    rintro ((⟨token, hTest⟩ | hNone) | hNone)
    · cases hTest
    · exact hNone
    · exact hNone
  obtain ⟨hLess, hMoves⟩ := guarded_progress g [0x2C, 0x0A, 0xFF]
  exact ⟨rfl, hDone, hLess rfl _ _ hDone, rfl, hTests, hMoves rfl hTests⟩

end Grammar

end TwoWay
