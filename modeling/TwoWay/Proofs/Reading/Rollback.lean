import TwoWay.Format.Table
import TwoWay.Proofs.Reading.Chain

/-!
# Failed readings leave the text alone

A choice goes on from where its first side failed, an option is done where its grammar failed, and a
bridge installs whatever position is reported to it. All of them are right only because a grammar
that fails puts the text back itself.

* `Step.Restores`: a step that, whenever it fails, fails with one failure and where it started.
* `Step.Restores.andThen`, `Step.Restores.orElse`, ...: every way to build a step keeps this, across
  a change of view too (`Bridge.restores_read`).
* `Grammar.restores_parse`: so every grammar restores.
-/

namespace TwoWay

/-! ## Steps that restore -/

namespace Step

variable {σ α β : Type} {failure : Failure}

/-- Whenever the step fails, it gives this failure and the state it started in. -/
def Restores (failure : Failure) (p : Step σ α) : Prop :=
  ∀ s found s', p s = .failed found s' → found = failure ∧ s' = s

theorem restores_of_ne_failed {p : Step σ α} (h : ∀ s found s', p s ≠ .failed found s') :
    Restores failure p :=
  fun s found s' hp => absurd hp (h s found s')

theorem restores_pure (a : α) : Restores failure (pure a : Step σ α) :=
  restores_of_ne_failed fun _ _ _ h => by cases h

theorem restores_attempt (p : Step σ α) : Restores failure (attempt p) :=
  restores_of_ne_failed fun _ _ _ => attempt_ne_failed

namespace Restores

theorem map {p : Step σ α} (hp : Restores failure p) (f : α → β) :
    Restores failure (Step.map f p) := by
  intro s found s' h
  exact hp s found s' (Outcome.map_eq_failed_iff.1 h)

theorem orElse {p q : Step σ α} (hp : Restores failure p) (hq : Restores failure q) :
    Restores failure (Step.orElse p q) := by
  intro s found s' h
  obtain ⟨first, s₁, hFirst, hSecond⟩ := orElse_eq_failed_iff.1 h
  -- the second side starts where the first one failed, which is where the first one started
  obtain ⟨-, rfl⟩ := hp s first s₁ hFirst
  exact hq s₁ found s' hSecond

theorem andThen {undo : σ → σ → σ} {p : Step σ α} {q : Step σ β} (hp : Restores failure p)
    (hq : Restores failure q) (hUndo : ∀ s now, undo s now = s) :
    Restores failure (Step.andThen undo p q) := by
  intro s found s' h
  rcases andThen_eq_failed_iff.1 h with hFirst | ⟨a, s₁, s₂, -, hSecond, hBack⟩
  · exact hp s found s' hFirst
  · exact ⟨(hq s₁ found s₂ hSecond).1, by rw [← hBack, hUndo]⟩

/-- A step that restores and is not given up fails wherever it is not done. -/
theorem eq_failed_iff {p : Step σ Unit} (hp : Restores failure p) {s left : σ} {found : Failure}
    (hTotal : ∀ fault, p s ≠ .aborted fault) :
    p s = .failed found left ↔ (found = failure ∧ left = s) ∧ ∀ rest, p s ≠ .done () rest := by
  constructor
  · intro h
    exact ⟨hp s found left h, by simp [h]⟩
  · rintro ⟨⟨rfl, rfl⟩, hNotDone⟩
    cases hRead : p left with
    | done _ rest => exact absurd hRead (hNotDone rest)
    | failed first state =>
      obtain ⟨rfl, rfl⟩ := hp left first state hRead
      rfl
    | aborted fault => exact absurd hRead (hTotal fault)

end Restores

/-- A repetition restores whatever its element and its separator do. -/
theorem restores_readMany {ρ : Type} (size : σ → Nat) (element : Step σ α)
    (separator : Step σ Unit) (bounds : Bounds) (acc : Accumulator α ρ) :
    Restores .parse (readMany size element separator bounds acc) := by
  intro s found s' h
  exact (readMany_eq_failed_iff.1 h).1

end Step

/-! ## Leaves -/

section Leaves

open Step (Restores)

variable {v : View} {α : Type}

theorem restores_readToken (v : View) : Restores .parse (readToken v) := by
  intro s found s' h
  unfold readToken at h
  split at h
  · cases h
  · cases h; exact ⟨rfl, rfl⟩

theorem restores_readEnd (v : View) : Restores .parse (readEnd v) := by
  intro s found s' h
  unfold readEnd at h
  split at h
  · cases h
  · cases h; exact ⟨rfl, rfl⟩

theorem restores_readLiteral (literal : v.Text) : Restores .parse (readLiteral literal) := by
  intro s found s' h
  unfold readLiteral at h
  split at h
  · split at h
    · cases h
    · cases h; exact ⟨rfl, rfl⟩
  · cases h; exact ⟨rfl, rfl⟩

theorem restores_readLineEnd (v : View) : Restores .parse (readLineEnd v) :=
  (restores_readLiteral _).orElse (restores_readLiteral _)

theorem readLineEnd_eq_done {text rest : v.Text}
    (h : readLineEnd v text = .done () rest) :
    text = v.longLineEnd ++ rest ∨ text = v.shortLineEnd ++ rest := by
  rcases Step.orElse_eq_done_iff.1 h with hLong | ⟨failure, left, hFailed, hShort⟩
  · exact Or.inl (readLiteral_eq_done_iff.1 hLong).1
  · obtain ⟨-, rfl⟩ := restores_readLiteral _ text failure left hFailed
    exact Or.inr (readLiteral_eq_done_iff.1 hShort).1

theorem restores_readRun (test : Test v) (bounds : Bounds) :
    Restores .parse (readRun test bounds) := by
  intro s found s' h
  unfold readRun at h
  split at h
  · split at h
    · cases h
    · cases h; exact ⟨rfl, rfl⟩
  · cases h; exact ⟨rfl, rfl⟩
  · cases h

theorem restores_readNumber (v : View) (form : NumberForm α) :
    Restores .parse (readNumber v form) := by
  intro s found s' h
  unfold readNumber at h
  split at h
  · split at h
    · cases h
    · cases h; exact ⟨rfl, rfl⟩
  · cases h; exact ⟨rfl, rfl⟩
  · cases h

/-- Taking a run may be given up, but does not fail. -/
theorem takeRun_ne_failed (test : Test v) (limit : Option Nat) (text : v.Text) (failure : Failure)
    (left : v.Text) : takeRun test limit text ≠ .failed failure left := by
  fun_induction takeRun test limit text with
  | case1 text => simp
  | case2 limit text hLimit hNext => simp
  | case3 limit text hLimit token rest hNext fault hTest => simp
  | case4 limit text hLimit token rest hNext hTest => simp
  | case5 limit text hLimit token rest hNext hTest hLt ih =>
    exact fun h => ih (Outcome.map_eq_failed_iff.1 h)

theorem restores_readIdentifier (v : View) : Restores .parse (readIdentifier v) := by
  intro s found s' h
  unfold readIdentifier at h
  split at h
  · cases h; exact ⟨rfl, rfl⟩
  · split at h
    · exact absurd (Outcome.map_eq_failed_iff.1 h) (takeRun_ne_failed _ _ _ _ _)
    · cases h; exact ⟨rfl, rfl⟩

end Leaves

/-! ## Bridges -/

section Bridges

open Step (Restores)

variable {v w : View} {α : Type} {failure : Failure}

/-- All the bytes of a text are left exactly when all of the text is. -/
theorem lastBytes?_length_encode (v : View) (text : List Char) :
    v.lastBytes? (v.spell text) (Utf8.encode text).length = some (v.spell text) := by
  rw [View.lastBytes?, View.size_spell, Nat.sub_self, View.cut?]
  rfl

theorem restores_readTextOnBytes (size : List Char → Nat) {p : Step (List Char) α}
    (hp : Restores failure p) : Restores failure (readTextOnBytes size p) := by
  intro bytes found left h
  obtain ⟨rest, hFailed, hLeft⟩ := Outcome.mapState_eq_failed_iff.1 h
  obtain ⟨hFound, rfl⟩ := hp _ found rest hFailed
  rw [Nat.sub_self, List.drop_zero] at hLeft
  exact ⟨hFound, hLeft.symm⟩

theorem restores_readBytesOnText {restOf? : List Char → Nat → Option (List Char)}
    (hAll : ∀ text, restOf? text (Utf8.encode text).length = some text)
    {p : Step (List UInt8) α} (hp : Restores .parse p) :
    Restores .parse (readBytesOnText restOf? p) := by
  intro text found left h
  unfold readBytesOnText at h
  split at h
  · split at h
    · cases h
    · cases h; exact ⟨rfl, rfl⟩
  · rename_i failure bytes hFailed
    obtain ⟨rfl, rfl⟩ := hp _ failure bytes hFailed
    rw [hAll] at h
    cases h; exact ⟨rfl, rfl⟩
  · cases h

theorem Bridge.restores_read (bridge : Bridge w v) {p : Step w.Text α} (hp : Restores .parse p) :
    Restores .parse (bridge.read p) := by
  cases bridge with
  | graphemesToChars => exact hp
  | graphemesToBytes => exact restores_readTextOnBytes _ hp
  | charsToBytes => exact restores_readTextOnBytes _ hp
  | bytesToGraphemes => exact restores_readBytesOnText (lastBytes?_length_encode .graphemes) hp
  | bytesToChars => exact restores_readBytesOnText (lastBytes?_length_encode .chars) hp

end Bridges

/-! ## Grammars -/

namespace Grammar

open Step (Restores)

variable {v : View} {α : Type}

theorem restores_parse (grammar : Grammar v α) : Restores .parse grammar.parse := by
  induction grammar with
  | always value => exact Step.restores_pure value
  | finish => exact restores_readEnd _
  | token => exact restores_readToken _
  | literal text => exact restores_readLiteral text
  | lineEnd => exact restores_readLineEnd _
  | run test bounds => exact restores_readRun test bounds
  | number form h => exact restores_readNumber _ form
  | identifier h => exact restores_readIdentifier _
  | pair first second hFirst hSecond => exact hFirst.andThen hSecond fun _ _ => rfl
  | skipThen first second hFirst hSecond => exact (hFirst.andThen hSecond fun _ _ => rfl).map _
  | thenSkip first second hFirst hSecond => exact (hFirst.andThen hSecond fun _ _ => rfl).map _
  | orElse first second hFirst hSecond => exact hFirst.orElse hSecond
  | optional grammar h => exact Step.restores_attempt _
  | map f grammar h => exact h.map f
  | convert apply unapply grammar h => exact h.map apply
  | writtenBy reader writer hReader hWriter => exact hReader.map _
  | many element separator bounds acc hElement hSeparator =>
    exact Step.restores_readMany _ element.parse separator.parse bounds acc
  | across bridge grammar h => exact bridge.restores_read h

/-- **A grammar that fails to read changes nothing**: the failure is that of reading, and what is
left is the text as it was. -/
theorem parse_failed (grammar : Grammar v α) (text left : v.Text) (failure : Failure)
    (h : grammar.parse text = .failed failure left) : failure = .parse ∧ left = text :=
  grammar.restores_parse text failure left h

/-- A row whose line end is missing, in bytes that are no text from the fourth on. -/
theorem parse_failed_row :
    (across .charsToBytes (.thenSkip Format.row .lineEnd)).parse [0x61, 0x2C, 0x62, 0xFF] =
        .failed .parse [0x61, 0x2C, 0x62, 0xFF] ∧
      Failure.parse = .parse ∧ [0x61, 0x2C, 0x62, 0xFF] = [0x61, 0x2C, 0x62, (0xFF : UInt8)] := by
  have hFailed : (across .charsToBytes (.thenSkip Format.row .lineEnd)).parse
      [0x61, 0x2C, 0x62, 0xFF] = .failed .parse [0x61, 0x2C, 0x62, 0xFF] := by
    decide +kernel
  exact ⟨hFailed, parse_failed _ _ _ _ hFailed⟩

end Grammar

end TwoWay
