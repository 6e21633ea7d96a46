import TwoWay.Format.Table

/-!
# Writings only append

What a grammar writes does not depend on what the buffer holds: it comes to the same as in an empty
buffer, behind what is there already. If it fails, nothing of it stays, whatever was written and
taken back on the way.

* `Outcome.behind`: an outcome in an empty buffer, placed behind what a buffer holds.
* `Step.Appends`: a step that does in every buffer what it does in an empty one.
* `writeMore_behind`, `appends_writeMany`: a repetition appends if its element and separator do.
* `Grammar.appends_print`: so every grammar appends.
-/

namespace TwoWay

/-- The outcome of a writing into an empty buffer, behind what a buffer holds. -/
def Outcome.behind {A : Type} (buffer : List A) :
    Outcome (List A) Unit → Outcome (List A) Unit
  | .done _ text => .done () (buffer ++ text)
  | .failed _ _ => .failed .print buffer
  | .aborted fault => .aborted fault

/-- The step does in every buffer what it does in an empty one. -/
def Step.Appends {A : Type} (p : Step (List A) Unit) : Prop :=
  ∀ buffer, p buffer = (p []).behind buffer

section Steps

variable {A : Type} {p q : Step (List A) Unit}

open Step (Appends)

theorem Step.appends_pure : Appends (Step.pure () : Step (List A) Unit) := by
  intro buffer
  simp [Step.pure, Outcome.behind]

theorem Step.appends_fail : Appends (Step.fail .print : Step (List A) Unit) := fun _ => rfl

namespace Step.Appends

theorem of_done (hp : Appends p) {text : List A} (h : p [] = .done () text) (buffer : List A) :
    p buffer = .done () (buffer ++ text) := by
  rw [hp, h, Outcome.behind]

theorem of_failed (hp : Appends p) {failure : Failure} {left : List A}
    (h : p [] = .failed failure left) (buffer : List A) : p buffer = .failed .print buffer := by
  rw [hp, h, Outcome.behind]

theorem eq_of_failed (hp : Appends p) {failure : Failure} {left : List A}
    (h : p [] = .failed failure left) : failure = .print ∧ left = [] := by
  have hEmpty := hp.of_failed h []
  rw [h] at hEmpty
  cases hEmpty
  exact ⟨rfl, rfl⟩

theorem of_aborted (hp : Appends p) {fault : Fault} (h : p [] = .aborted fault)
    (buffer : List A) : p buffer = .aborted fault := by
  rw [hp, h, Outcome.behind]

/-- What is written stays behind what was there. -/
theorem prefix_of_done (hp : Appends p) {buffer written : List A}
    (h : p buffer = .done () written) : buffer <+: written := by
  rw [hp buffer] at h
  cases hAlone : p [] with
  | done _ text =>
    rw [hAlone] at h
    cases h
    exact List.prefix_append buffer text
  | failed failure left =>
    rw [hAlone] at h
    cases h
  | aborted fault =>
    rw [hAlone] at h
    cases h

theorem eq_of_refused (hp : Appends p) {failure : Failure} {buffer left : List A}
    (h : p buffer = .failed failure left) : failure = .print ∧ left = buffer := by
  rw [hp buffer] at h
  cases hAlone : p [] with
  | done _ text =>
    rw [hAlone] at h
    cases h
  | failed failure left =>
    rw [hAlone] at h
    cases h
    exact ⟨rfl, rfl⟩
  | aborted fault =>
    rw [hAlone] at h
    cases h

theorem andThen {undo : List A → List A → List A} (hp : Appends p) (hq : Appends q)
    (hUndo : ∀ start text, undo start (start ++ text) = start) :
    Appends ((Step.andThen undo p q).map fun _ => ()) := by
  intro buffer
  unfold Step.map Step.andThen
  cases hFirst : p [] with
  | done _ text =>
    rw [hp.of_done hFirst]
    cases hSecond : q [] with
    | done _ more =>
      simp only [hq.of_done hSecond, Outcome.map, Outcome.behind, List.append_assoc]
    | failed failure left =>
      simp only [hq.of_failed hSecond, hUndo, Outcome.map, Outcome.behind]
    | aborted fault => simp only [hq.of_aborted hSecond, Outcome.map, Outcome.behind]
  | failed failure left =>
    rw [hp.of_failed hFirst]
    rfl
  | aborted fault =>
    rw [hp.of_aborted hFirst]
    rfl

theorem orElse (hp : Appends p) (hq : Appends q) : Appends (Step.orElse p q) := by
  intro buffer
  unfold Step.orElse
  cases hFirst : p [] with
  | done _ text =>
    rw [hp.of_done hFirst]
    rfl
  | failed failure left =>
    -- the second side starts with the buffer that the first one was given
    obtain ⟨rfl, rfl⟩ := hp.eq_of_failed hFirst
    rw [hp.of_failed hFirst]
    exact hq buffer
  | aborted fault =>
    rw [hp.of_aborted hFirst]
    rfl

end Step.Appends

end Steps

/-! ## Leaves -/

section Leaves

open Step (Appends)

variable {v : View} {α : Type}

theorem appends_append (text : v.Text) : Appends (append text) := by
  intro buffer
  simp [append, Outcome.behind]

theorem appends_writeRun (test : Test v) (bounds : Bounds) (run : v.Text) :
    Appends (writeRun test bounds run) := by
  intro buffer
  unfold writeRun
  cases takeRun test none run with
  | done tokens rest =>
    by_cases hWhole : (rest.isEmpty && bounds.allows tokens.length) = true
    · simp only [if_pos hWhole]
      exact appends_append run buffer
    · simp only [if_neg hWhole]
      rfl
  | failed failure left => rfl
  | aborted fault => rfl

theorem appends_writeNumber (v : View) (form : NumberForm α) (value : α) :
    Appends (writeNumber v form value) := by
  intro buffer
  unfold writeNumber
  cases form.write? value with
  | some numeral =>
    by_cases hNumeral : isNumeral numeral = true
    · simp only [if_pos hNumeral]
      exact appends_append _ buffer
    · simp only [if_neg hNumeral]
      rfl
  | none => rfl

theorem appends_writeIdentifier (name : v.Text) : Appends (writeIdentifier name) := by
  intro buffer
  unfold writeIdentifier
  cases readIdentifier v name with
  | done found rest =>
    by_cases hWhole : rest.isEmpty = true
    · simp only [if_pos hWhole]
      exact appends_append name buffer
    · simp only [if_neg hWhole]
      rfl
  | failed failure left => rfl
  | aborted fault => rfl

end Leaves

/-! ## Repetitions -/

section Repetitions

open Step (Appends)

variable {v : View} {α : Type} {element : α → Step v.Text Unit} {separator : Step v.Text Unit}

/-- Both places that a repetition goes back to are behind what the buffer held when it started. -/
theorem writeMore_behind (hElement : ∀ a, Appends (element a)) (hSeparator : Appends separator)
    (bounds : Bounds) (buffer : v.Text) :
    ∀ (elements : List α) (count : Nat) (written : v.Text),
      writeMore element separator bounds (v.size buffer) count elements (buffer ++ written) =
        (writeMore element separator bounds 0 count elements written).behind buffer := by
  intro elements
  induction elements with
  | nil =>
    intro count written
    unfold writeMore
    by_cases hLeast : bounds.least ≤ count
    · simp only [if_pos hLeast]
      rfl
    · simp only [if_neg hLeast, v.truncate_append]
      rfl
  | cons a elements ih =>
    intro count written
    unfold writeMore
    cases hSep : separator [] with
    | aborted fault => simp only [hSeparator.of_aborted hSep, Outcome.behind]
    | failed failure left =>
      simp only [hSeparator.of_failed hSep, v.truncate_append, Outcome.behind]
    | done _ sep =>
      simp only [hSeparator.of_done hSep]
      cases hText : element a [] with
      | aborted fault => simp only [(hElement a).of_aborted hText, Outcome.behind]
      | failed failure left =>
        simp only [(hElement a).of_failed hText, v.retract_append, Outcome.behind]
      | done _ text =>
        simp only [(hElement a).of_done hText]
        by_cases hWithin : bounds.isWithin (count + 1) = true
        · simp only [if_pos hWithin]
          rw [← ih (count + 1) (written ++ sep ++ text)]
          simp only [List.append_assoc]
        · simp only [if_neg hWithin, List.append_assoc, v.truncate_append, Outcome.behind]

theorem appends_writeMany (hElement : ∀ a, Appends (element a)) (hSeparator : Appends separator)
    (bounds : Bounds) (elements : List α) :
    Appends (writeMany element separator bounds elements) := by
  intro buffer
  cases elements with
  | nil =>
    unfold writeMany
    by_cases hLeast : bounds.least = 0
    · simp only [if_pos hLeast]
      exact Step.appends_pure buffer
    · simp only [if_neg hLeast]
      exact Step.appends_fail buffer
  | cons a elements =>
    unfold writeMany
    cases hText : element a [] with
    | aborted fault => simp only [(hElement a).of_aborted hText, Outcome.behind]
    | failed failure left => simp only [(hElement a).of_failed hText, Outcome.behind]
    | done _ text =>
      simp only [(hElement a).of_done hText]
      by_cases hWithin : bounds.isWithin 1 = true
      · simp only [if_pos hWithin]
        exact writeMore_behind hElement hSeparator bounds buffer elements 1 text
      · simp only [if_neg hWithin, v.retract_append, Outcome.behind]

end Repetitions

/-! ## Bridges -/

section Bridges

open Step (Appends)

variable {v w : View}

theorem appends_writeTextOnBytes {p : Step (List Char) Unit} (hp : Appends p) :
    Appends (writeTextOnBytes p) := by
  intro buffer
  unfold writeTextOnBytes
  cases hText : p [] with
  | done _ text => rfl
  | failed failure left =>
    -- the failure inside is handed on, so it has to be one of writing
    obtain ⟨rfl, rfl⟩ := hp.eq_of_failed hText
    rfl
  | aborted fault => rfl

theorem appends_writeBytesOnText {p : Step (List UInt8) Unit} (hp : Appends p) :
    Appends (writeBytesOnText p) := by
  intro buffer
  unfold writeBytesOnText
  cases hBytes : p [] with
  | done _ bytes =>
    cases hText : Utf8.decode? bytes with
    | some text => simp [hText, Outcome.behind]
    | none => simp [hText, Outcome.behind]
  | failed failure left =>
    obtain ⟨rfl, rfl⟩ := hp.eq_of_failed hBytes
    rfl
  | aborted fault => rfl

theorem Bridge.appends_write (bridge : Bridge w v) {p : Step w.Text Unit} (hp : Appends p) :
    Appends (bridge.write p) := by
  cases bridge with
  | graphemesToChars => exact hp
  | graphemesToBytes => exact appends_writeTextOnBytes hp
  | charsToBytes => exact appends_writeTextOnBytes hp
  | bytesToGraphemes => exact appends_writeBytesOnText hp
  | bytesToChars => exact appends_writeBytesOnText hp

end Bridges

/-! ## Grammars -/

namespace Grammar

open Step (Appends)

variable {v : View} {α : Type}

theorem appends_print (grammar : Grammar v α) : ∀ value, Appends (grammar.print value) := by
  induction grammar with
  | always given => exact fun _ => Step.appends_pure
  | finish => exact fun _ => Step.appends_pure
  | token => exact fun token => appends_append _
  | literal text => exact fun _ => appends_append text
  | lineEnd => exact fun _ => appends_append _
  | run test bounds => exact fun run => appends_writeRun test bounds run
  | number form h => exact fun value => appends_writeNumber _ form value
  | identifier h => exact fun name => appends_writeIdentifier name
  | pair first second hFirst hSecond =>
    exact fun value => (hFirst value.1).andThen (hSecond value.2) (View.retract_append _)
  | skipThen first second hFirst hSecond =>
    exact fun value => (hFirst ()).andThen (hSecond value) (View.retract_append _)
  | thenSkip first second hFirst hSecond =>
    exact fun value => (hFirst value).andThen (hSecond ()) (View.retract_append _)
  | orElse first second hFirst hSecond => exact fun value => (hFirst value).orElse (hSecond value)
  | optional grammar h =>
    intro value
    cases value with
    | some value => exact h value
    | none => exact Step.appends_pure
  | map f grammar h => exact fun _ => Step.appends_fail
  | convert apply unapply grammar h => exact fun value => h (unapply value)
  | writtenBy reader writer hReader hWriter => exact fun _ => hWriter ()
  | many element separator bounds acc hElement hSeparator =>
    exact fun value => appends_writeMany hElement (hSeparator ()) bounds (acc.parts value)
  | across bridge grammar h => exact fun value => bridge.appends_write (h value)

/-- **Writing behind a buffer.**  A value that can be written on its own is written behind whatever
the buffer holds, as the same text. Where it cannot, it cannot be written behind a buffer either,
the failure is that of writing, and the buffer is as it was. -/
theorem print_of_printToBuffer (grammar : Grammar v α) (value : α) (buffer : v.Text) :
    (∀ text, grammar.printToBuffer value = .done () text →
      grammar.print value buffer = .done () (buffer ++ text)) ∧
    (∀ failure left, grammar.printToBuffer value = .failed failure left →
      grammar.print value buffer = .failed .print buffer) ∧
    (∀ fault, grammar.printToBuffer value = .aborted fault →
      grammar.print value buffer = .aborted fault) := by
  have hAppends := grammar.appends_print value
  exact ⟨fun text h => hAppends.of_done h buffer, fun failure left h => hAppends.of_failed h buffer,
    fun fault h => hAppends.of_aborted h buffer⟩

/-- A row that is cut short at a cell that cannot be written, behind a buffer. -/
theorem print_of_printToBuffer_row :
    Format.row.printToBuffer [['a'], ['b', ','], ['c']] = .done () ['a'] ∧
      Format.row.print [['a'], ['b', ','], ['c']] ['>', ','] = .done () ['>', ',', 'a'] := by
  have hAlone : Format.row.printToBuffer [['a'], ['b', ','], ['c']] = .done () ['a'] := by
    decide +kernel
  exact ⟨hAlone, (print_of_printToBuffer Format.row _ ['>', ',']).1 ['a'] hAlone⟩

end Grammar

end TwoWay
