import TwoWay.Proofs.Reading.Guarded
import TwoWay.Proofs.RoundTrip.Repetition

/-!
# Fixed layouts

A grammar has a fixed layout if how much it reads does not depend on what follows: it is built from
single tokens, literals, line ends and runs of one length, put in sequence, converted back and
forth, and repeated a fixed number of times. What such a grammar wrote is read back in front of any
text.

A repetition tries its separator after its last element too, on a text that it did not write. What
the separator finds there is dropped again: a fixed layout never ends in a fault, and the count
leaves no room for another element.

* `Grammar.FixedLayout`: the grammars of a fixed layout.
* `Grammar.WritesAll`: no repetition is cut short where a value is written.
* `Step.ReadsBack`: a text is read as a value whatever follows.
* `Grammar.FixedLayout.parse_ne_aborted`: no text makes a fixed layout end in a fault.
* `Grammar.readsBack_repetition`: the loop, from any count on.
* `Grammar.fixedLayout_readsBack`: so every grammar of a fixed layout reads back what it wrote.
-/

namespace TwoWay

/-! ## Bounds that one count meets -/

/-- Only one count meets the bounds. -/
def Bounds.IsExact (bounds : Bounds) : Prop := bounds.most = some bounds.least

namespace Bounds

variable {bounds : Bounds} {count : Nat}

theorem isExact_exactly (count : Nat) : (exactly count).IsExact := rfl

theorem IsExact.hasRoom_iff (h : bounds.IsExact) :
    bounds.hasRoom count = true ↔ count < bounds.least := by
  rw [Bounds.hasRoom_iff, show bounds.most = some bounds.least from h]
  simp

theorem IsExact.allows_iff (h : bounds.IsExact) :
    bounds.allows count = true ↔ count = bounds.least := by
  rw [Bounds.allows_iff, isWithin_iff, show bounds.most = some bounds.least from h]
  simp only [Option.mem_some_iff, forall_eq']
  omega

end Bounds

namespace Grammar

/-! ## Grammars of a fixed layout -/

/-- How much of a text the grammar reads does not depend on what follows. -/
inductive FixedLayout {v : View} : {α : Type} → Grammar v α → Prop where
  | nothing : FixedLayout (.always ())
  | token : FixedLayout .token
  | literal (text : v.Text) : FixedLayout (.literal text)
  | lineEnd : FixedLayout .lineEnd
  | run (accepts : v.Token → Bool) {bounds : Bounds} (hExact : bounds.IsExact) :
    FixedLayout (.run (.ofPred accepts) bounds)
  | pair {α β : Type} {first : Grammar v α} {second : Grammar v β} (hFirst : FixedLayout first)
    (hSecond : FixedLayout second) : FixedLayout (.pair first second)
  | skipThen {β : Type} {first : Grammar v Unit} {second : Grammar v β}
    (hFirst : FixedLayout first) (hSecond : FixedLayout second) :
    FixedLayout (.skipThen first second)
  | thenSkip {α : Type} {first : Grammar v α} {second : Grammar v Unit}
    (hFirst : FixedLayout first) (hSecond : FixedLayout second) :
    FixedLayout (.thenSkip first second)
  | convert {α β : Type} {apply : α → β} {unapply : β → α} {grammar : Grammar v α}
    (hInverse : ∀ value, apply (unapply value) = value) (h : FixedLayout grammar) :
    FixedLayout (.convert apply unapply grammar)
  | many {α ρ : Type} {element : Grammar v α} {separator : Grammar v Unit} {bounds : Bounds}
    {acc : Accumulator α ρ} (hElement : FixedLayout element) (hSeparator : FixedLayout separator)
    (hConsumes : Step.Consumes element.parse ∨ Step.Consumes separator.parse)
    (hExact : bounds.IsExact) (hParts : ∀ value, acc.collect (acc.parts value) = value) :
    FixedLayout (.many element separator bounds acc)

/-- Where a value is written, no repetition is cut short at an element that cannot be written. -/
def WritesAll : {v : View} → {α : Type} → Grammar v α → α → Prop
  | _, _, always _, _ | _, _, finish, _ | _, _, token, _ | _, _, literal _, _ => True
  | _, _, lineEnd, _ | _, _, run _ _, _ | _, _, number _ _, _ | _, _, identifier _, _ => True
  | _, _, pair first second, value => first.WritesAll value.1 ∧ second.WritesAll value.2
  | _, _, skipThen first second, value => first.WritesAll () ∧ second.WritesAll value
  | _, _, thenSkip first second, value => first.WritesAll value ∧ second.WritesAll ()
  | _, _, orElse first second, value =>
    ((∃ text, first.printToBuffer value = .done () text) → first.WritesAll value) ∧
      ((∃ failure left, first.printToBuffer value = .failed failure left) →
        second.WritesAll value)
  | _, _, optional grammar, value => ∀ found ∈ value, grammar.WritesAll found
  | _, _, map _ _, _ => True
  | _, _, convert _ unapply grammar, value => grammar.WritesAll (unapply value)
  | _, _, writtenBy _ writer, _ => writer.WritesAll ()
  | _, _, many element separator _ acc, value =>
    (∀ a ∈ acc.parts value, (∃ text, element.printToBuffer a = .done () text) ∧
      element.WritesAll a) ∧ (2 ≤ (acc.parts value).length → separator.WritesAll ())
  | _, _, across _ grammar, value => grammar.WritesAll value

end Grammar

/-! ## Reading back in front of anything -/

/-- Whatever follows a text, the step reads it as a value and leaves what follows. -/
def Step.ReadsBack {A α : Type} (p : Step (List A) α) (text : List A) (value : α) : Prop :=
  ∀ rest, p (text ++ rest) = .done value rest

namespace Step.ReadsBack

variable {A α β : Type}

theorem map {p : Step (List A) α} {text : List A} {value : α} (h : ReadsBack p text value)
    (f : α → β) : ReadsBack (Step.map f p) text (f value) :=
  fun rest => Outcome.map_eq_done_iff.2 ⟨value, h rest, rfl⟩

theorem andThen {undo : List A → List A → List A} {p : Step (List A) α} {q : Step (List A) β}
    {front back : List A} {a : α} {b : β} (hp : ReadsBack p front a) (hq : ReadsBack q back b) :
    ReadsBack (Step.andThen undo p q) (front ++ back) (a, b) := by
  intro rest
  rw [List.append_assoc]
  exact andThen_eq_done_iff.2 ⟨back ++ rest, hp (back ++ rest), hq rest⟩

end Step.ReadsBack

/-! ## Leaves -/

section Leaves

open Step (ReadsBack)

variable {v : View}

theorem readsBack_readToken (hv : v.hasCharacters = true) (token : v.Token) :
    ReadsBack (readToken v) (v.tokenText token) token :=
  fun rest => by simp only [readToken, View.next?_tokenText hv]

theorem readsBack_readLiteral (hv : v.hasCharacters = true) (literal : v.Text) :
    ReadsBack (readLiteral literal) literal () :=
  readLiteral_append hv literal

theorem readsBack_readLineEnd (hv : v.hasCharacters = true) :
    ReadsBack (readLineEnd v) v.shortLineEnd () :=
  readLineEnd_append hv

theorem readsBack_readRun (hv : v.hasCharacters = true) {test : Test v} {bounds : Bounds}
    (hExact : bounds.IsExact) {run text : v.Text}
    (h : writeRun test bounds run [] = .done () text) :
    ReadsBack (readRun test bounds) text run := by
  obtain ⟨rfl, tokens, rfl, hTokens, hCount⟩ := writeRun_eq_done h
  have hLength := hExact.allows_iff.1 hCount
  have hMost : bounds.most = some tokens.length := hLength ▸ hExact
  intro rest
  unfold readRun
  rw [hMost, takeRun_of_length hv hTokens]
  exact if_pos (Nat.le_of_eq hLength.symm)

end Leaves

/-! ## Sequences -/

/-- What a sequence writes is what its first step writes and then what its second one does. -/
theorem Step.Appends.andThen_eq_done {A : Type} {undo : List A → List A → List A}
    {p q : Step (List A) Unit} (hq : Step.Appends q) {text : List A}
    (h : (Step.andThen undo p q).map (fun _ => ()) [] = .done () text) :
    ∃ front back, p [] = .done () front ∧ q [] = .done () back ∧ text = front ++ back := by
  obtain ⟨_, hBoth, -⟩ := Outcome.map_eq_done_iff.1 h
  obtain ⟨front, hFirst, hSecond⟩ := Step.andThen_eq_done_iff.1 hBoth
  cases hBack : q [] with
  | done _ back =>
    rw [hq.of_done hBack] at hSecond
    cases hSecond
    exact ⟨front, back, hFirst, rfl, rfl⟩
  | failed failure left =>
    rw [hq.of_failed hBack] at hSecond
    cases hSecond
  | aborted fault =>
    rw [hq.of_aborted hBack] at hSecond
    cases hSecond

namespace Grammar

open Step (AbortsOnly Consumes ReadsBack)

variable {v : View} {α β ρ : Type}

/-- A sequence reads back what it wrote if both its sides do. -/
theorem readsBack_sequence {first : Grammar v α} {second : Grammar v β} {a : α} {b : β}
    (hFirst : ∀ text, first.printToBuffer a = .done () text →
      ReadsBack first.parse text a)
    (hSecond : ∀ text, second.printToBuffer b = .done () text →
      ReadsBack second.parse text b) {text : v.Text}
    (hWritten : (Step.andThen v.retract (first.print a) (second.print b)).map (fun _ => ()) [] =
      .done () text) :
    ReadsBack (Step.andThen v.restart first.parse second.parse) text (a, b) := by
  obtain ⟨front, back, hFront, hBack, rfl⟩ := (second.appends_print b).andThen_eq_done hWritten
  exact (hFirst front hFront).andThen (hSecond back hBack)

/-! ## Repetitions -/

section Repetitions

variable {element : Grammar v α} {separator : Grammar v Unit} {bounds : Bounds}
  {add : ρ → α → ρ} {start mark text sep : v.Text} {count : Nat} {value : ρ} {a : α}
  (hExact : bounds.IsExact)
  (hConsumes : Consumes element.parse ∨ Consumes separator.parse)

include hExact hConsumes

/-- The last element ends the repetition, whatever the separator finds after it. -/
theorem readsBack_last (hAnswers : ∀ rest fault, separator.parse rest ≠ .aborted fault)
    (hElement : ReadsBack element.parse text a) (hLast : count + 1 = bounds.least) :
    ReadsBack (readMore v.size element.parse separator.parse bounds add start count value mark) text
      (add value a) := by
  intro rest
  have hDone := hElement rest
  have hRoom : bounds.hasRoom count = true := hExact.hasRoom_iff.2 (by omega)
  have hSettle : settle bounds start (count + 1) (add value a) rest = .done (add value a) rest :=
    settle_eq_done_iff.2 ⟨Nat.le_of_eq hLast.symm, rfl, rfl⟩
  cases hSeparator : separator.parse rest with
  | done _ after =>
    have hFull : ¬ bounds.hasRoom (count + 1) = true := fun h => by
      have := hExact.hasRoom_iff.1 h
      omega
    have hLess := size_lt_of_round hConsumes hDone hSeparator
    rw [readMore_of_round hRoom hDone hSeparator hLess, readMore_of_full hFull]
    exact hSettle
  | failed failure left =>
    rw [readMore_of_separator_failed hRoom hDone hSeparator]
    exact hSettle
  | aborted fault => exact absurd hSeparator (hAnswers rest fault)

/-- An element before a separator makes a round, and the repetition goes on behind them. -/
theorem readsBack_round (hElement : ReadsBack element.parse text a)
    (hSeparator : ReadsBack separator.parse sep ()) (hRoom : count < bounds.least) {more : v.Text}
    {collected : ρ}
    (hMore : ∀ mark, ReadsBack
      (readMore v.size element.parse separator.parse bounds add start (count + 1) (add value a)
        mark) more collected) :
    ReadsBack (readMore v.size element.parse separator.parse bounds add start count value mark)
      (text ++ (sep ++ more)) collected := by
  intro rest
  rw [List.append_assoc, List.append_assoc]
  have hDone := hElement (sep ++ (more ++ rest))
  have hSeparated := hSeparator (more ++ rest)
  have hLess := size_lt_of_round hConsumes hDone hSeparated
  rw [readMore_of_round (hExact.hasRoom_iff.2 hRoom) hDone hSeparated hLess]
  exact hMore _ rest

/-- **The loop reads back what was written.**  From any count on, the texts of as many elements as
are missing, with separators between, are read as the values they were written for. -/
theorem readsBack_repetition (hAnswers : ∀ rest fault, separator.parse rest ≠ .aborted fault)
    {elements : List α} {texts : List v.Text}
    (front : WritableFront element.printToBuffer elements texts)
    (hAll : ∀ a ∈ elements, ∃ text, element.printToBuffer a = .done () text)
    (hElement : ∀ a ∈ elements, ∀ text, element.printToBuffer a = .done () text →
      ReadsBack element.parse text a)
    (hSeparator : 2 ≤ elements.length → ReadsBack separator.parse sep ())
    (add : ρ → α → ρ) (start : v.Text) :
    ∀ (count : Nat) (value : ρ) (mark : v.Text), elements ≠ [] →
      count + elements.length = bounds.least →
      ReadsBack (readMore v.size element.parse separator.parse bounds add start count value mark)
        (sep.intercalate texts) (elements.foldl add value) := by
  induction front with
  | all => exact fun count value mark hSome => absurd rfl hSome
  | @stop a elements failure left hFailed => simp [hFailed] at hAll
  | @more a elements text texts hDone front ih =>
    intro count value mark _ hCount
    have hRead := hElement a List.mem_cons_self text hDone
    cases front with
    | all =>
      rw [List.intercalate_singleton]
      exact readsBack_last hExact hConsumes hAnswers hRead hCount
    | @stop b elements failure left hFailed => simp [hFailed] at hAll
    | @more b elements next texts hNext front =>
      simp only [List.length_cons] at hCount hSeparator ih
      rw [List.intercalate_cons_cons, List.append_assoc]
      have hSep := hSeparator (by omega)
      refine readsBack_round hExact hConsumes hRead hSep (by omega) fun mark => ?_
      exact ih (fun c hc => hAll c (List.mem_cons_of_mem a hc))
        (fun c hc => hElement c (List.mem_cons_of_mem a hc)) (fun _ => hSep)
        (count + 1) (add value a) mark (by simp) (by omega)

/-- A repetition reads back as many elements as it needs, and none if it needs none. -/
theorem readsBack_many (hAnswers : ∀ rest fault, separator.parse rest ≠ .aborted fault)
    {elements : List α} {texts : List v.Text}
    (front : WritableFront element.printToBuffer elements texts)
    (hAll : ∀ a ∈ elements, ∃ text, element.printToBuffer a = .done () text)
    (hElement : ∀ a ∈ elements, ∀ text, element.printToBuffer a = .done () text →
      ReadsBack element.parse text a)
    (hSeparator : 2 ≤ elements.length → ReadsBack separator.parse sep ())
    (hCount : elements.length = bounds.least) (acc : Accumulator α ρ) :
    ReadsBack (many element separator bounds acc).parse (sep.intercalate texts)
      (acc.collect elements) := by
  intro rest
  by_cases hNone : elements = []
  · -- with no element to read, the separator is not tried either
    subst hNone
    cases front
    have hFull : ¬ bounds.hasRoom 0 = true := fun h =>
      Nat.ne_of_lt (hExact.hasRoom_iff.1 h) hCount
    change readMore v.size element.parse separator.parse bounds _ _ 0 _ _ _ = _
    rw [readMore_of_full hFull]
    exact settle_eq_done_iff.2 ⟨Nat.le_of_eq hCount.symm, rfl, rfl⟩
  · exact readsBack_repetition hExact hConsumes hAnswers front hAll hElement hSeparator acc.add
      (sep.intercalate texts ++ rest) 0 acc.initial (sep.intercalate texts ++ rest) hNone
      ((Nat.zero_add _).trans hCount) rest

end Repetitions

/-- A separator between elements that were written was written too. -/
theorem exists_separator_text {element : Grammar v α} {separator : Grammar v Unit}
    {bounds : Bounds} {elements : List α} {texts : List v.Text} {text : v.Text}
    (front : WritableFront element.printToBuffer elements texts)
    (hSeveral : 2 ≤ elements.length)
    (h : writeMany element.print (separator.print ()) bounds elements [] = .done () text) :
    ∃ sep, separator.printToBuffer () = .done () sep := by
  cases hSep : separator.printToBuffer () with
  | done _ sep => exact ⟨sep, rfl⟩
  | failed failure left =>
    rw [writeMany_of_separator_failed element.appends_print (separator.appends_print ()) front
      hSeveral hSep] at h
    cases h
  | aborted fault =>
    cases front with
    | all => simp at hSeveral
    | stop hFailed =>
      rw [writeMany_cons_of_failed (element.appends_print _) hFailed] at h
      cases h
    | @more a elements first texts hFirst front =>
      rw [writeMany_cons_of_done hFirst] at h
      cases elements with
      | nil => simp at hSeveral
      | cons b elements =>
        simp only [writeMore, (separator.appends_print ()).of_aborted hSep] at h
        split at h <;> cases h

/-- A repetition all of whose elements can be written is written as their texts with separators
between, if it is written at all. -/
theorem printToBuffer_many_eq_done {element : Grammar v α} {separator : Grammar v Unit}
    {bounds : Bounds} {acc : Accumulator α ρ} {value : ρ} {text : v.Text}
    (hAll : ∀ a ∈ acc.parts value, ∃ text, element.printToBuffer a = .done () text)
    (h : (many element separator bounds acc).printToBuffer value = .done () text) :
    bounds.allows (acc.parts value).length = true ∧ ∃ texts sep,
      WritableFront element.printToBuffer (acc.parts value) texts ∧
      (2 ≤ (acc.parts value).length → separator.printToBuffer () = .done () sep) ∧
      text = sep.intercalate texts := by
  change writeMany element.print (separator.print ()) bounds (acc.parts value) [] = _ at h
  generalize acc.parts value = elements at h hAll
  obtain ⟨texts, front, hLength⟩ := WritableFront.exists_of_forall hAll
  by_cases hNone : texts = []
  · subst hNone
    obtain rfl : elements = [] := List.length_eq_zero_iff.1 hLength.symm
    simp only [writeMany] at h
    split at h
    · rename_i hLeast
      cases h
      exact ⟨Bounds.allows_iff.2 ⟨Nat.le_of_eq hLeast, bounds.isWithin_zero⟩, [], [], .all,
        by simp, rfl⟩
    · cases h
  · obtain ⟨sep, hSep⟩ :
        ∃ sep, 2 ≤ elements.length → separator.printToBuffer () = .done () sep := by
      by_cases hSeveral : 2 ≤ elements.length
      · exact (exists_separator_text front hSeveral h).imp fun _ hSep _ => hSep
      · exact ⟨[], fun h => absurd h hSeveral⟩
    rw [writeMany_of_front element.appends_print (separator.appends_print ()) front hNone hSep]
      at h
    split at h
    · rename_i hCount
      cases h
      rw [hLength] at hCount
      exact ⟨Bounds.allows_iff.2 ⟨hCount.1.resolve_left (Nat.lt_irrefl _), hCount.2⟩, texts, sep,
        front, hSep, rfl⟩
    · cases h

/-! ## Grammars -/

namespace FixedLayout

variable {g : Grammar v α}

/-- The faults of a fixed layout are those of its tests: its repetitions do not stand still. -/
theorem abortsOnly (h : FixedLayout g) : AbortsOnly g.Raises g.parse := by
  induction h with
  | nothing => exact Step.abortsOnly_pure _
  | token => exact abortsOnly_readToken _
  | literal text => exact abortsOnly_readLiteral text
  | lineEnd => exact abortsOnly_readLineEnd _
  | run accepts hExact => exact abortsOnly_readRun _ _
  | pair _ _ hFirst hSecond => exact hFirst.andThen hSecond
  | skipThen _ _ hFirst hSecond => exact (hFirst.andThen hSecond).map _
  | thenSkip _ _ hFirst hSecond => exact (hFirst.andThen hSecond).map _
  | convert hInverse _ ih => exact ih.map _
  | many _ _ hConsumes hExact hParts hElement hSeparator =>
    exact abortsOnly_many hElement hSeparator hConsumes _ _

theorem not_raises (h : FixedLayout g) (fault : Fault) : ¬ g.Raises fault := by
  induction h with
  | nothing | token | literal | lineEnd => exact id
  | run accepts hExact => exact fun ⟨_, hTest⟩ => nomatch hTest
  | pair _ _ hFirst hSecond => exact not_or.2 ⟨hFirst, hSecond⟩
  | skipThen _ _ hFirst hSecond => exact not_or.2 ⟨hFirst, hSecond⟩
  | thenSkip _ _ hFirst hSecond => exact not_or.2 ⟨hFirst, hSecond⟩
  | convert hInverse _ ih => exact ih
  | many _ _ hConsumes hExact hParts hElement hSeparator => exact not_or.2 ⟨hElement, hSeparator⟩

/-- No text makes a fixed layout end in a fault. -/
theorem parse_ne_aborted (h : FixedLayout g) (text : v.Text) (fault : Fault) :
    g.parse text ≠ .aborted fault :=
  fun hAborted => h.not_raises fault (h.abortsOnly text fault hAborted)

/-- One case for each way to build a fixed layout; what a sequence and a repetition wrote is first
taken apart into the texts of their parts. -/
theorem readsBack (hv : v.hasCharacters = true) (h : FixedLayout g) :
    ∀ value text, g.printToBuffer value = .done () text → g.WritesAll value →
      ReadsBack g.parse text value := by
  induction h with
  | nothing =>
    intro value text hWritten _
    cases hWritten
    exact fun rest => rfl
  | token =>
    intro token text hWritten _
    cases hWritten
    exact readsBack_readToken hv token
  | literal literal =>
    intro value text hWritten _
    cases hWritten
    exact readsBack_readLiteral hv literal
  | lineEnd =>
    intro value text hWritten _
    cases hWritten
    exact readsBack_readLineEnd hv
  | run accepts hExact => exact fun run text hWritten _ => readsBack_readRun hv hExact hWritten
  | pair _ _ hFirst hSecond =>
    rintro ⟨a, b⟩ text hWritten ⟨hAllFirst, hAllSecond⟩
    exact readsBack_sequence (hFirst a · · hAllFirst) (hSecond b · · hAllSecond) hWritten
  | skipThen _ _ hFirst hSecond =>
    rintro b text hWritten ⟨hAllFirst, hAllSecond⟩
    exact (readsBack_sequence (hFirst () · · hAllFirst) (hSecond b · · hAllSecond) hWritten).map _
  | thenSkip _ _ hFirst hSecond =>
    rintro a text hWritten ⟨hAllFirst, hAllSecond⟩
    exact (readsBack_sequence (hFirst a · · hAllFirst) (hSecond () · · hAllSecond) hWritten).map _
  | @convert _ _ apply unapply grammar hInverse _ ih =>
    intro value text hWritten hAll
    have hRead := (ih (unapply value) text hWritten hAll).map apply
    rwa [hInverse] at hRead
  | @many _ _ element separator bounds acc _ hLayout hConsumes hExact hParts hElement hSeparator =>
    rintro value text hWritten ⟨hAllElements, hAllSeparator⟩
    have hAll : ∀ a ∈ acc.parts value, ∃ text, element.printToBuffer a = .done () text :=
      fun a ha => (hAllElements a ha).1
    obtain ⟨hCount, texts, sep, front, hSep, rfl⟩ := printToBuffer_many_eq_done hAll hWritten
    rw [← hParts value]
    exact readsBack_many hExact hConsumes hLayout.parse_ne_aborted front hAll
      (fun a ha text hDone => hElement a text hDone (hAllElements a ha).2)
      (fun hSeveral => hSeparator () sep (hSep hSeveral) (hAllSeparator hSeveral))
      (hExact.allows_iff.1 hCount) acc

end FixedLayout

/-- **Fixed layouts are read back in front of anything.**  Let a grammar of a fixed layout, on a
view whose tokens are characters, write a value without cutting a repetition short. Whatever follows
the text, it is read as the value, and what follows is left. -/
theorem fixedLayout_readsBack {g : Grammar v α} (hv : v.hasCharacters = true) (h : FixedLayout g)
    (value : α) (text : v.Text) (hWritten : g.printToBuffer value = .done () text)
    (hAll : g.WritesAll value) (rest : v.Text) : g.parse (text ++ rest) = .done value rest :=
  h.readsBack hv value text hWritten hAll rest

/-- A time of day, in front of what could go on with it. -/
theorem fixedLayout_readsBack_clock :
    let twoDigits : Grammar .chars (List Char) := .run (.ofPred Char.isDigit) (.exactly 2)
    let clock : Grammar .chars (List (List Char)) :=
      .many twoDigits (.literal [':']) (.exactly 3) .list
    let time := [['1', '2'], ['3', '0'], ['4', '5']]
    let text := ['1', '2', ':', '3', '0', ':', '4', '5']
    clock.FixedLayout ∧ clock.printToBuffer time = .done () text ∧ clock.WritesAll time ∧
      clock.parse (text ++ [':', '6', '0']) = .done time [':', '6', '0'] := by
  intro twoDigits clock time text
  have hLayout : clock.FixedLayout :=
    .many (.run _ (Bounds.isExact_exactly 2)) (.literal _)
      (Or.inr (consumes_readLiteral (by decide))) (Bounds.isExact_exactly 3)
      Accumulator.collect_list
  have hWritten : clock.printToBuffer time = .done () text := by decide +kernel
  have hParts : ∀ part ∈ time, twoDigits.printToBuffer part = .done () part := by decide +kernel
  have hAll : clock.WritesAll time :=
    ⟨fun part hPart => ⟨⟨part, hParts part hPart⟩, trivial⟩, fun _ => trivial⟩
  exact ⟨hLayout, hWritten, hAll,
    fixedLayout_readsBack rfl hLayout time text hWritten hAll [':', '6', '0']⟩

end Grammar

end TwoWay
