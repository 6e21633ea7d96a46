import Mathlib.Logic.Relation
import TwoWay.Proofs.Writing.Append
import TwoWay.Session

/-!
# Marks in a buffer

A mark in a buffer is only the size that the buffer had when the mark was set, and going back to it
cuts the buffer down to that size. This gives back the buffer as it was because no call on a buffer
ever changes what was there before: what a mark was set behind stays in front of everything that is
written later, and of every mark that is set later.

* `View.Edit`: one call on a buffer with marks, that is done or fails.
* `View.Marked.Holds`: behind every mark lies what the buffer was, and behind newer marks lies more.
* `View.Edit.holds`, `View.holds_of_edits`: one call keeps this, and so does a run of calls.
* `Grammar.printChecked`: writing with a fault for each size that the buffer cannot be cut down to;
  `Grammar.printChecked_eq` says that grammars never meet it.
* `Session.edits_of_step`: a session does nothing else to its buffer than these calls.
* `View.edits_keep_marks`: all this for every view.
-/

namespace TwoWay

open Relation (ReflTransGen)
open Step (Appends)

/-! ## Calls on a buffer -/

namespace View

/-- A mark that was set in a buffer. Going back looks at the size only; the text is what the buffer
was when the mark was set. -/
structure Mark (v : View) where
  size : Nat
  text : v.Text

/-- A buffer, and the marks in it that were not gone back to, the newest first. -/
structure Marked (v : View) where
  buffer : v.Text
  marks : List v.Mark

/-- One call on a buffer that ends without a fault: what is there before it, and after it. -/
inductive Edit (v : View) : v.Marked → v.Marked → Prop where
  | token {buffer written : v.Text} {marks : List v.Mark} (token : v.Token)
      (h : writeToken token buffer = .done () written) : Edit v ⟨buffer, marks⟩ ⟨written, marks⟩
  | slice {buffer written : v.Text} {marks : List v.Mark} (slice : v.Text)
      (h : append slice buffer = .done () written) : Edit v ⟨buffer, marks⟩ ⟨written, marks⟩
  | printed {α : Type} {buffer written : v.Text} {marks : List v.Mark} (grammar : Grammar v α)
      (value : α) (h : grammar.print value buffer = .done () written) :
      Edit v ⟨buffer, marks⟩ ⟨written, marks⟩
  | refused {α : Type} {buffer left : v.Text} {marks : List v.Mark} {failure : Failure}
      (grammar : Grammar v α) (value : α) (h : grammar.print value buffer = .failed failure left) :
      Edit v ⟨buffer, marks⟩ ⟨left, marks⟩
  | mark {buffer : v.Text} {marks : List v.Mark} :
      Edit v ⟨buffer, marks⟩ ⟨buffer, ⟨v.size buffer, buffer⟩ :: marks⟩
  | rewind {buffer : v.Text} {mark : v.Mark} {marks : List v.Mark} :
      Edit v ⟨buffer, mark :: marks⟩ ⟨v.truncate mark.size buffer, marks⟩

end View

namespace View

variable {v : View} {text buffer : v.Text}

/-- A buffer can be cut after what is at its front, and that is what is cut off. -/
theorem cut?_front (h : text <+: buffer) :
    ∃ since, v.cut? (v.size text) buffer = some (text, since) := by
  obtain ⟨since, rfl⟩ := h
  exact ⟨since, v.cut?_append text since⟩

theorem truncate_front (h : text <+: buffer) : v.truncate (v.size text) buffer = text := by
  obtain ⟨since, rfl⟩ := h
  exact v.truncate_append text since

theorem size_le_of_front (h : text <+: buffer) : v.size text ≤ v.size buffer := by
  obtain ⟨since, rfl⟩ := h
  rw [size_append]
  omega

/-! ## Marks that hold -/

/-- Every mark is the size of what the buffer was, which is still at the front of the buffer, and
behind a newer mark lies at least what lies behind an older one. -/
structure Marked.Holds (s : v.Marked) : Prop where
  size_eq : ∀ mark ∈ s.marks, mark.size = v.size mark.text
  nested : s.marks.Pairwise fun newer older => older.text <+: newer.text
  kept : ∀ mark ∈ s.marks, mark.text <+: s.buffer

namespace Marked.Holds

variable {marks : List v.Mark} {newest : v.Mark}

theorem start (buffer : v.Text) : Holds (⟨buffer, []⟩ : v.Marked) := ⟨by simp, .nil, by simp⟩

theorem written {written : v.Text} (h : Holds ⟨buffer, marks⟩) (hPrefix : buffer <+: written) :
    Holds ⟨written, marks⟩ :=
  ⟨h.size_eq, h.nested, fun mark hMark => (h.kept mark hMark).trans hPrefix⟩

theorem mark (h : Holds ⟨buffer, marks⟩) : Holds ⟨buffer, ⟨v.size buffer, buffer⟩ :: marks⟩ where
  size_eq := List.forall_mem_cons.2 ⟨rfl, h.size_eq⟩
  nested := .cons h.kept h.nested
  kept := List.forall_mem_cons.2 ⟨List.prefix_rfl, h.kept⟩

theorem truncate_eq (h : Holds ⟨buffer, marks⟩) {mark : v.Mark} (hMark : mark ∈ marks) :
    v.truncate mark.size buffer = mark.text := by
  rw [h.size_eq mark hMark, truncate_front (h.kept mark hMark)]

/-- Going back to the newest mark leaves what lies behind it, and there the older marks are. -/
theorem rewind (h : Holds ⟨buffer, newest :: marks⟩) :
    Holds ⟨v.truncate newest.size buffer, marks⟩ := by
  obtain ⟨hNested, hOlder⟩ := List.pairwise_cons.1 h.nested
  rw [h.truncate_eq List.mem_cons_self]
  exact ⟨fun older hMem => h.size_eq older (List.mem_cons_of_mem _ hMem), hOlder, hNested⟩

end Marked.Holds

/-- **One call keeps every mark.** -/
theorem Edit.holds {s t : v.Marked} (h : v.Edit s t) (hs : s.Holds) : t.Holds := by
  cases h with
  | token token hDone => exact hs.written ((appends_append _).prefix_of_done hDone)
  | slice slice hDone => exact hs.written ((appends_append _).prefix_of_done hDone)
  | printed grammar value hDone =>
    exact hs.written ((grammar.appends_print value).prefix_of_done hDone)
  | refused grammar value hFailed =>
    obtain ⟨-, rfl⟩ := (grammar.appends_print value).eq_of_refused hFailed
    exact hs
  | mark => exact hs.mark
  | rewind => exact hs.rewind

theorem holds_of_edits {start : v.Text} {s : v.Marked} (h : ReflTransGen v.Edit ⟨start, []⟩ s) :
    s.Holds := by
  induction h with
  | refl => exact .start start
  | tail _ edit ih => exact edit.holds ih

end View

/-! ## Writings that check what they go back to -/

section Checked

variable {v : View} {α β : Type}

/-- Fails with a buffer cut down to a size; a fault where the cut falls inside an atom or past the
end. -/
def failAt (v : View) (size : Nat) (buffer : v.Text) : Outcome v.Text α :=
  match v.cut? size buffer with
  | some (kept, _) => .failed .print kept
  | none => .aborted .position

/-- Writes one part after another, and checks the size that it goes back to. -/
def writeBothChecked (p q : Step v.Text Unit) : Step v.Text Unit := fun buffer =>
  match p buffer with
  | .done _ buffer₁ =>
    match q buffer₁ with
    | .done _ buffer₂ => .done () buffer₂
    | .failed _ buffer₂ => failAt v (v.size buffer) buffer₂
    | .aborted fault => .aborted fault
  | .failed failure buffer₁ => .failed failure buffer₁
  | .aborted fault => .aborted fault

/-- Goes on with a repetition, and checks the sizes that it goes back to. -/
def writeMoreChecked (element : α → Step v.Text Unit) (separator : Step v.Text Unit)
    (bounds : Bounds) (start : Nat) : (count : Nat) → List α → Step v.Text Unit
  | count, [] => fun buffer =>
    if bounds.least ≤ count then .done () buffer else failAt v start buffer
  | count, a :: elements => fun buffer =>
    match separator buffer with
    | .aborted fault => .aborted fault
    | .failed _ buffer₁ => failAt v start buffer₁
    | .done _ buffer₁ =>
      match element a buffer₁ with
      | .aborted fault => .aborted fault
      | .failed _ buffer₂ =>
        match v.cut? (v.size buffer) buffer₂ with
        | some (kept, _) => .done () kept
        | none => .aborted .position
      | .done _ buffer₂ =>
        if bounds.isWithin (count + 1) then
          writeMoreChecked element separator bounds start (count + 1) elements buffer₂
        else failAt v start buffer₂

/-- Writes a repetition, and checks the sizes that it goes back to. -/
def writeManyChecked (element : α → Step v.Text Unit) (separator : Step v.Text Unit)
    (bounds : Bounds) : List α → Step v.Text Unit
  | [] => if bounds.least = 0 then Step.pure () else Step.fail .print
  | a :: elements => fun buffer =>
    match element a buffer with
    | .done _ buffer₁ =>
      if bounds.isWithin 1 then
        writeMoreChecked element separator bounds (v.size buffer) 1 elements buffer₁
      else failAt v (v.size buffer) buffer₁
    | outcome => outcome

/-- Appends the text of a value to a buffer, and checks every size that it goes back to. -/
def Grammar.printChecked : {v : View} → {α : Type} → Grammar v α → α → Step v.Text Unit
  | _, _, always _, _ => Step.pure ()
  | _, _, finish, _ => Step.pure ()
  | _, _, token, value => writeToken value
  | _, _, literal text, _ => append text
  | v, _, lineEnd, _ => writeLineEnd v
  | _, _, run test bounds, value => writeRun test bounds value
  | v, _, number form _, value => writeNumber v form value
  | _, _, identifier _, value => writeIdentifier value
  | _, _, pair first second, value =>
    writeBothChecked (first.printChecked value.1) (second.printChecked value.2)
  | _, _, skipThen first second, value =>
    writeBothChecked (first.printChecked ()) (second.printChecked value)
  | _, _, thenSkip first second, value =>
    writeBothChecked (first.printChecked value) (second.printChecked ())
  | _, _, orElse first second, value =>
    Step.orElse (first.printChecked value) (second.printChecked value)
  | _, _, optional grammar, some value => grammar.printChecked value
  | _, _, optional _, none => Step.pure ()
  | _, _, map _ _, _ => Step.fail .print
  | _, _, convert _ unapply grammar, value => grammar.printChecked (unapply value)
  | _, _, writtenBy _ writer, _ => writer.printChecked ()
  | _, _, many element separator bounds acc, value =>
    writeManyChecked element.printChecked (separator.printChecked ()) bounds (acc.parts value)
  | _, _, across bridge grammar, value => bridge.write (grammar.printChecked value)

/-! ### The checks never fail -/

theorem failAt_front {kept buffer : v.Text} (h : kept <+: buffer) :
    (failAt v (v.size kept) buffer : Outcome v.Text α) = .failed .print kept := by
  obtain ⟨since, hCut⟩ := View.cut?_front h
  rw [failAt, hCut]

theorem writeBothChecked_eq {p q : Step v.Text Unit} (hp : Appends p) (hq : Appends q) :
    writeBothChecked p q = (Step.andThen v.retract p q).map fun _ => () := by
  funext buffer
  unfold writeBothChecked Step.map Step.andThen
  cases hFirst : p buffer with
  | done _ buffer₁ =>
    have hKept : buffer <+: buffer₁ := hp.prefix_of_done hFirst
    cases hSecond : q buffer₁ with
    | done _ buffer₂ => simp only [hSecond, Outcome.map]
    | failed failure buffer₂ =>
      obtain ⟨rfl, rfl⟩ := hq.eq_of_refused hSecond
      simp only [hSecond, Outcome.map]
      rw [failAt_front hKept, View.retract, View.truncate_front hKept]
    | aborted fault => simp only [hSecond, Outcome.map]
  | failed failure buffer₁ => rfl
  | aborted fault => rfl

section Repetitions

variable {element : α → Step v.Text Unit} {separator : Step v.Text Unit}

/-- Both places that a repetition goes back to are at the front of the buffer at any time. -/
theorem writeMoreChecked_eq (hElement : ∀ a, Appends (element a)) (hSeparator : Appends separator)
    (bounds : Bounds) {start : v.Text} :
    ∀ (elements : List α) (count : Nat) (buffer : v.Text), start <+: buffer →
      writeMoreChecked element separator bounds (v.size start) count elements buffer =
        writeMore element separator bounds (v.size start) count elements buffer := by
  intro elements
  induction elements with
  | nil =>
    intro count buffer hStart
    unfold writeMoreChecked writeMore
    rw [failAt_front hStart, View.truncate_front hStart]
  | cons a elements ih =>
    intro count buffer hStart
    unfold writeMoreChecked writeMore
    cases hSep : separator buffer with
    | aborted fault => rfl
    | failed failure buffer₁ =>
      obtain ⟨-, rfl⟩ := hSeparator.eq_of_refused hSep
      simp only
      rw [failAt_front hStart, View.truncate_front hStart]
    | done _ buffer₁ =>
      have hBuffer : buffer <+: buffer₁ := hSeparator.prefix_of_done hSep
      simp only
      cases hText : element a buffer₁ with
      | aborted fault => rfl
      | failed failure buffer₂ =>
        obtain ⟨-, rfl⟩ := (hElement a).eq_of_refused hText
        obtain ⟨since, hCut⟩ := View.cut?_front hBuffer
        simp only [hCut]
        rw [View.retract, View.truncate_front hBuffer]
      | done _ buffer₂ =>
        have hMore : start <+: buffer₂ :=
          (hStart.trans hBuffer).trans ((hElement a).prefix_of_done hText)
        simp only
        rw [ih (count + 1) buffer₂ hMore, failAt_front hMore, View.truncate_front hMore]

theorem writeManyChecked_eq (hElement : ∀ a, Appends (element a)) (hSeparator : Appends separator)
    (bounds : Bounds) (elements : List α) :
    writeManyChecked element separator bounds elements =
      writeMany element separator bounds elements := by
  cases elements with
  | nil => rfl
  | cons a elements =>
    funext buffer
    unfold writeManyChecked writeMany
    cases hText : element a buffer with
    | aborted fault => simp only [hText]
    | failed failure buffer₁ => simp only [hText]
    | done _ buffer₁ =>
      have hStart : buffer <+: buffer₁ := (hElement a).prefix_of_done hText
      simp only [hText]
      rw [writeMoreChecked_eq hElement hSeparator bounds elements 1 buffer₁ hStart,
        failAt_front hStart, View.retract, View.truncate_front hStart]

end Repetitions

namespace Grammar

variable {γ : Type}

theorem writeBothChecked_eq_print {first : Grammar v α} {second : Grammar v β} {a : α} {b : β}
    (hFirst : ∀ a, first.printChecked a = first.print a)
    (hSecond : ∀ b, second.printChecked b = second.print b) :
    writeBothChecked (first.printChecked a) (second.printChecked b) =
      (Step.andThen v.retract (first.print a) (second.print b)).map fun _ => () := by
  rw [hFirst, hSecond, writeBothChecked_eq (first.appends_print a) (second.appends_print b)]

/-- **A grammar never meets a size that it cannot go back to.** -/
theorem printChecked_eq (grammar : Grammar v γ) :
    ∀ value, grammar.printChecked value = grammar.print value := by
  induction grammar with
  | always given => exact fun _ => rfl
  | finish => exact fun _ => rfl
  | token => exact fun _ => rfl
  | literal text => exact fun _ => rfl
  | lineEnd => exact fun _ => rfl
  | run test bounds => exact fun _ => rfl
  | number form h => exact fun _ => rfl
  | identifier h => exact fun _ => rfl
  | pair first second hFirst hSecond => exact fun _ => writeBothChecked_eq_print hFirst hSecond
  | skipThen first second hFirst hSecond => exact fun _ => writeBothChecked_eq_print hFirst hSecond
  | thenSkip first second hFirst hSecond => exact fun _ => writeBothChecked_eq_print hFirst hSecond
  | orElse first second hFirst hSecond =>
    intro value
    rw [printChecked, print, hFirst, hSecond]
  | optional grammar ih =>
    intro value
    cases value with
    | some value => exact ih value
    | none => rfl
  | map f grammar ih => exact fun _ => rfl
  | convert apply unapply grammar ih => exact fun value => ih (unapply value)
  | writtenBy reader writer hReader hWriter => exact fun _ => hWriter ()
  | many element separator bounds acc hElement hSeparator =>
    intro value
    rw [printChecked, print, funext hElement, hSeparator,
      writeManyChecked_eq element.appends_print (separator.appends_print ())]
  | across bridge grammar ih =>
    intro value
    rw [printChecked, print, ih]

end Grammar

end Checked

/-! ## Sessions -/

theorem Outcome.reply_eq_ok {σ α : Type} {o : Outcome σ α} {reply : Except Failure α} {state : σ}
    (h : o.reply = .ok (reply, state)) :
    (∃ value, o = .done value state) ∨ ∃ failure, o = .failed failure state := by
  cases o with
  | done value s =>
    cases h
    exact Or.inl ⟨value, rfl⟩
  | failed failure s =>
    cases h
    exact Or.inr ⟨failure, rfl⟩
  | aborted fault => cases h

namespace Session

open View (Mark)

variable {v : View} {α : Type} {grammars : List (Grammar v α)} {session next : Session v}

/-- The session follows some command, and is then the other one. -/
def Follows (grammars : List (Grammar v α)) (session next : Session v) : Prop :=
  ∃ command answer, session.step grammars command = .ok (answer, next)

theorem exists_of_bind {ε A B : Type} {x : Except ε A} {f : A → Except ε B} {b : B}
    (h : x >>= f = .ok b) : ∃ a, x = .ok a ∧ f a = .ok b := by
  cases x with
  | ok a => exact ⟨a, rfl, h⟩
  | error e => cases h

theorem exists_of_withGrammar {B : Type} {place : Nat} {use : Grammar v α → Except Stop B} {b : B}
    (h : withGrammar grammars place use = .ok b) : ∃ grammar, use grammar = .ok b := by
  unfold withGrammar at h
  split at h
  · rename_i grammar hFound
    exact ⟨grammar, h⟩
  · cases h

/-- What a command does to the buffer and the checkpoints of a session is a call or nothing. -/
theorem edits_of_step {command : Command v α} {answer : Answer v α}
    (h : session.step grammars command = .ok (answer, next)) {marks : List v.Mark}
    (hMarks : marks.map Mark.size = session.checkpoints) :
    ∃ marks', marks'.map Mark.size = next.checkpoints ∧
      ReflTransGen v.Edit ⟨session.buffer, marks⟩ ⟨next.buffer, marks'⟩ := by
  cases command with
  | input text | snapshot | fromSlice slice =>
    cases h
    exact ⟨marks, hMarks, .refl⟩
  | parse place | parseAll text place =>
    obtain ⟨grammar, hUse⟩ := exists_of_withGrammar h
    obtain ⟨⟨reply, rest⟩, -, hNext⟩ := exists_of_bind hUse
    cases hNext
    exact ⟨marks, hMarks, .refl⟩
  | print value place =>
    obtain ⟨grammar, hUse⟩ := exists_of_withGrammar h
    obtain ⟨⟨reply, buffer⟩, hReply, hNext⟩ := exists_of_bind hUse
    cases hNext
    rcases Outcome.reply_eq_ok hReply with ⟨_, hDone⟩ | ⟨failure, hFailed⟩
    · exact ⟨marks, hMarks, .single (.printed grammar value hDone)⟩
    · exact ⟨marks, hMarks, .single (.refused grammar value hFailed)⟩
  | printToBuffer value place | roundTrip text place =>
    obtain ⟨grammar, hUse⟩ := exists_of_withGrammar h
    obtain ⟨reply, -, hNext⟩ := exists_of_bind hUse
    cases hNext
    exact ⟨marks, hMarks, .refl⟩
  | nextToken =>
    simp only [step] at h
    split at h <;> cases h <;> exact ⟨marks, hMarks, .refl⟩
  | restore =>
    simp only [step] at h
    split at h <;> cases h
    exact ⟨marks, hMarks, .refl⟩
  | consumed =>
    simp only [step] at h
    split at h
    · split at h <;> cases h
      exact ⟨marks, hMarks, .refl⟩
    · cases h
  | writeToken token =>
    cases h
    exact ⟨marks, hMarks, .single (.token token rfl)⟩
  | writeSlice slice =>
    cases h
    exact ⟨marks, hMarks, .single (.slice slice rfl)⟩
  | checkpoint =>
    cases h
    exact ⟨⟨v.size session.buffer, session.buffer⟩ :: marks, by rw [List.map_cons, hMarks],
      .single .mark⟩
  | rewind =>
    simp only [step] at h
    split at h
    · rename_i size checkpoints hCheckpoints
      cases h
      rw [hCheckpoints] at hMarks
      obtain ⟨mark, older, rfl, rfl, hOlder⟩ := List.map_eq_cons_iff.1 hMarks
      exact ⟨older, hOlder, .single .rewind⟩
    · cases h

theorem edits_of_follows (h : ReflTransGen (Follows grammars) session next) {marks : List v.Mark}
    (hMarks : marks.map Mark.size = session.checkpoints) :
    ∃ marks', marks'.map Mark.size = next.checkpoints ∧
      ReflTransGen v.Edit ⟨session.buffer, marks⟩ ⟨next.buffer, marks'⟩ := by
  induction h with
  | refl => exact ⟨marks, hMarks, .refl⟩
  | tail _ hStep ih =>
    obtain ⟨marks₁, hMarks₁, hEdits⟩ := ih
    obtain ⟨command, answer, hCommand⟩ := hStep
    obtain ⟨marks₂, hMarks₂, hMore⟩ := edits_of_step hCommand hMarks₁
    exact ⟨marks₂, hMarks₂, hEdits.trans hMore⟩

end Session

/-! ## All this for every view -/

/-- **Marks in a buffer hold.**  After calls on a buffer, each of them done or failed, no mark that
was not gone back to is behind a newer one or behind the end of the buffer. The buffer can be cut at
each of them, also where it is a text, and has in front of it what it had when the mark was set, so
that going back gives that back. No grammar goes back to a place where the buffer cannot be cut, and
a session does nothing to its buffer but such calls. -/
theorem View.edits_keep_marks (v : View) :
    (∀ (start now : v.Text) (marks : List v.Mark), ReflTransGen v.Edit ⟨start, []⟩ ⟨now, marks⟩ →
      (marks.Pairwise fun newer older => older.size ≤ newer.size) ∧
        ∀ mark ∈ marks, mark.size ≤ v.size now ∧
          (∃ since, v.cut? mark.size now = some (mark.text, since)) ∧
          v.truncate mark.size now = mark.text) ∧
    (∀ (α : Type) (grammar : Grammar v α), grammar.printChecked = grammar.print) ∧
    ∀ (α : Type) (grammars : List (Grammar v α)) (session next : Session v),
      session.checkpoints = [] → ReflTransGen (Session.Follows grammars) session next →
        ∃ marks : List v.Mark, marks.map Mark.size = next.checkpoints ∧
          ReflTransGen v.Edit ⟨session.buffer, []⟩ ⟨next.buffer, marks⟩ := by
  refine ⟨fun start now marks hRun => ?_, fun _ grammar => funext grammar.printChecked_eq,
    fun _ grammars session next hStart hRun => ?_⟩
  · have hHolds := holds_of_edits hRun
    refine ⟨hHolds.nested.imp_of_mem fun {newer older} hNewer hOlder hPrefix => ?_,
      fun mark hMark => ⟨?_, ?_, hHolds.truncate_eq hMark⟩⟩
    · rw [hHolds.size_eq newer hNewer, hHolds.size_eq older hOlder]
      exact size_le_of_front hPrefix
    · rw [hHolds.size_eq mark hMark]
      exact size_le_of_front (hHolds.kept mark hMark)
    · rw [hHolds.size_eq mark hMark]
      exact cut?_front (hHolds.kept mark hMark)
  · exact Session.edits_of_follows hRun hStart.symm

/-- A row that is cut short is written between two marks. After the second one a row is refused, and
a scalar is written. -/
theorem View.edits_keep_marks_row :
    let marks : List View.chars.Mark := [⟨3, ['é', 'a']⟩, ⟨2, ['é']⟩]
    ReflTransGen View.chars.Edit ⟨['é'], []⟩ ⟨['é', 'a', '!'], marks⟩ ∧
      ∀ mark ∈ marks, View.chars.truncate mark.size ['é', 'a', '!'] = mark.text := by
  intro marks
  have hShort : Format.row.print [['a'], ['b', ',']] ['é'] = .done () ['é', 'a'] := by
    decide +kernel
  have hRefused : Format.row.print [[',']] ['é', 'a'] = .failed .print ['é', 'a'] := by
    decide +kernel
  have hFirst : ReflTransGen View.chars.Edit ⟨['é'], []⟩ ⟨['é', 'a'], [⟨2, ['é']⟩]⟩ :=
    (ReflTransGen.single .mark).tail (.printed Format.row _ hShort)
  have hRun : ReflTransGen View.chars.Edit ⟨['é'], []⟩ ⟨['é', 'a', '!'], marks⟩ :=
    ((hFirst.tail .mark).tail (.refused Format.row _ hRefused)).tail (.token '!' rfl)
  obtain ⟨-, hMarks⟩ := (View.edits_keep_marks .chars).1 _ _ marks hRun
  exact ⟨hRun, fun mark hMark => (hMarks mark hMark).2.2⟩

end TwoWay
