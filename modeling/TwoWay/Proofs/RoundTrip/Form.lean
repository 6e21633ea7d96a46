import Mathlib.Data.List.Basic
import Mathlib.Data.List.Induction
import TwoWay.Grammar.Repetition
import TwoWay.Proofs.Folding
import TwoWay.Proofs.Reading.Guarded
import TwoWay.Proofs.RoundTrip.Repetition

/-!
# Values with a form

A grammar reads many texts as the same value and writes one of them: the form of the value. Where
the values of a grammar are known by their forms, the same is known of the grammars it is put
together in, as long as each part stops where the next one begins.

* `Grammar.HasForm`: the values of a kind are written in their form, and read back from it in front
  of what may follow.
* `Grammar.HasForm.pair`, `Grammar.HasForm.separated`, ...: every way to put such grammars together.
* `Grammar.HasForm.collected_parseAll`: the values of a repetition in any collection of its own.
* `Grammar.Normalizes`: whatever is read is a value of the kind, and its form is no longer than what
  was read.
* `Grammar.Normalizes.pair`, `Grammar.Normalizes.ofElement`, ...: every way to put these together.
* `Grammar.parseAll_ne_aborted`: a guarded grammar whose tests always answer reads without a fault.
-/

namespace TwoWay

variable {v : View} {α β : Type}

theorem intercalate_concat (sep last : v.Text) (texts : List v.Text) :
    sep.intercalate (texts ++ [last]) = texts.flatMap (· ++ sep) ++ last := by
  induction texts with
  | nil => simp
  | cons text texts ih =>
    have hMore : texts ++ [last] ≠ [] := by simp
    obtain ⟨next, more, hCons⟩ := List.exists_cons_of_ne_nil hMore
    rw [List.cons_append, hCons, List.intercalate_cons_cons, ← hCons, ih, List.flatMap_cons,
      List.append_assoc, List.append_assoc, List.append_assoc]

theorem intercalate_nil_eq (texts : List v.Text) : [].intercalate texts = texts.flatten := by
  cases texts with
  | nil => rfl
  | cons text texts => rw [intercalate_cons_eq, List.flatten_cons]; simp

namespace Grammar

open Step (Consumes)

/-! ## Forms -/

/-- The values of a kind are written in their form, and read back from it in front of what may
follow. -/
structure HasForm (g : Grammar v α) (Valid : α → Prop) (form : α → v.Text)
    (Follows : v.Text → Prop) : Prop where
  written : ∀ value, Valid value → g.printToBuffer value = .done () (form value)
  read : ∀ value rest, Valid value → Follows rest → g.parse (form value ++ rest) = .done value rest

/-- The grammar is written as one text and reads it in front of what may follow. -/
abbrev HasText (g : Grammar v Unit) (text : v.Text) (Follows : v.Text → Prop) : Prop :=
  g.HasForm (fun _ => True) (fun _ => text) Follows

/-! ### Leaves -/

theorem hasText_always : (always () : Grammar v Unit).HasText [] fun _ => True where
  written := fun _ _ => rfl
  read := fun _ _ _ _ => rfl

theorem hasText_literal (hv : v.hasCharacters = true) (text : v.Text) :
    (literal text).HasText text fun _ => True where
  written := fun _ _ => rfl
  read := fun _ rest _ _ => readLiteral_append hv text rest

theorem hasText_lineEnd (hv : v.hasCharacters = true) :
    (lineEnd : Grammar v Unit).HasText v.shortLineEnd fun _ => True where
  written := fun _ _ => rfl
  read := fun _ rest _ _ => readLineEnd_append hv rest

theorem hasForm_token (hv : v.hasCharacters = true) :
    (token : Grammar v v.Token).HasForm (fun _ => True) v.tokenText fun _ => True where
  written := fun _ _ => rfl
  read := fun token rest _ _ => readToken_eq_done_iff.2 (v.next?_tokenText hv token rest)

theorem hasForm_run (hv : v.hasCharacters = true) (test : Test v) {bounds : Bounds}
    (hMost : bounds.most = none) :
    (run test bounds).HasForm
      (fun run => ∃ tokens, run = v.textOf tokens ∧ bounds.least ≤ tokens.length ∧
        ∀ token ∈ tokens, test token = .ok true) id test.StopsAt where
  written := by
    rintro _ ⟨tokens, rfl, hLeast, hTokens⟩
    have hRun : takeRun test none (v.textOf tokens) = .done tokens [] := by
      simpa using takeRun_append hv hTokens test.stopsAt_nil
    have hAllows : bounds.allows tokens.length = true :=
      Bounds.allows_iff.2 ⟨hLeast, Bounds.isWithin_iff.2 (by simp [hMost])⟩
    change writeRun test bounds _ [] = _
    simp only [writeRun, hRun, hAllows]
    rfl
  read := by
    rintro _ rest ⟨tokens, rfl, hLeast, hTokens⟩ hStop
    change readRun test bounds _ = _
    simp only [readRun, hMost, id, takeRun_append hv hTokens hStop, if_pos hLeast]

/-! ### Sequences and conversions -/

namespace HasForm

variable {g : Grammar v α} {g' : Grammar v β} {Valid : α → Prop} {Valid' : β → Prop}
  {form : α → v.Text} {form' : β → v.Text} {Follows Follows' : v.Text → Prop}

theorem parseAll (h : g.HasForm Valid form Follows) (hEnd : Follows []) {value : α}
    (hValue : Valid value) : g.parseAll (form value) = .done value [] := by
  have hRead := h.read value [] hValue hEnd
  rw [List.append_nil] at hRead
  rw [Grammar.parseAll, hRead]
  rfl

theorem imp (h : g.HasForm Valid form Follows) {Valid₁ : α → Prop} {form₁ : α → v.Text}
    (hValid : ∀ a, Valid₁ a → Valid a) (hForm : ∀ a, Valid₁ a → form a = form₁ a) :
    g.HasForm Valid₁ form₁ Follows where
  written := fun a ha => hForm a ha ▸ h.written a (hValid a ha)
  read := fun a rest ha hRest => hForm a ha ▸ h.read a rest (hValid a ha) hRest

theorem andThen_written (h : g.HasForm Valid form Follows) (h' : g'.HasForm Valid' form' Follows')
    {a : α} {b : β} (ha : Valid a) (hb : Valid' b) :
    (Step.andThen v.retract (g.print a) (g'.print b)).map (fun _ => ()) [] =
      .done () (form a ++ form' b) := by
  have hSecond := (g'.appends_print b).of_done (h'.written b hb) (form a)
  exact Outcome.map_eq_done_iff.2
    ⟨((), ()), Step.andThen_eq_done_iff.2 ⟨form a, h.written a ha, hSecond⟩, rfl⟩

theorem andThen_read (h : g.HasForm Valid form Follows) (h' : g'.HasForm Valid' form' Follows')
    {a : α} {b : β} (ha : Valid a) (hb : Valid' b) {rest : v.Text} (hRest : Follows' rest)
    (hNext : Follows (form' b ++ rest)) :
    Step.andThen v.restart g.parse g'.parse (form a ++ form' b ++ rest) = .done (a, b) rest := by
  rw [List.append_assoc]
  exact Step.andThen_eq_done_iff.2
    ⟨form' b ++ rest, h.read a _ ha hNext, h'.read b rest hb hRest⟩

theorem pair (h : g.HasForm Valid form Follows) (h' : g'.HasForm Valid' form' Follows')
    (hNext : ∀ b rest, Valid' b → Follows' rest → Follows (form' b ++ rest)) :
    (pair g g').HasForm (fun p => Valid p.1 ∧ Valid' p.2) (fun p => form p.1 ++ form' p.2)
      Follows' where
  written := fun _ hp => h.andThen_written h' hp.1 hp.2
  read := fun p rest hp hRest => h.andThen_read h' hp.1 hp.2 hRest (hNext p.2 rest hp.2 hRest)

theorem skipThen {first : Grammar v Unit} {text : v.Text} (h : first.HasText text Follows)
    (h' : g'.HasForm Valid' form' Follows')
    (hNext : ∀ b rest, Valid' b → Follows' rest → Follows (form' b ++ rest)) :
    (skipThen first g').HasForm Valid' (fun b => text ++ form' b) Follows' where
  written := fun _ hb => h.andThen_written h' trivial hb
  read := fun b rest hb hRest => Outcome.map_eq_done_iff.2
    ⟨((), b), h.andThen_read h' trivial hb hRest (hNext b rest hb hRest), rfl⟩

theorem thenSkip {second : Grammar v Unit} {text : v.Text} (h : g.HasForm Valid form Follows)
    (h' : second.HasText text Follows') (hNext : ∀ rest, Follows' rest → Follows (text ++ rest)) :
    (thenSkip g second).HasForm Valid (fun a => form a ++ text) Follows' where
  written := fun _ ha => h.andThen_written h' ha trivial
  read := fun a rest ha hRest => Outcome.map_eq_done_iff.2
    ⟨(a, ()), h.andThen_read h' ha trivial hRest (hNext rest hRest), rfl⟩

theorem convert (h : g.HasForm Valid form Follows) {apply : α → β} {unapply : β → α}
    (hInverse : ∀ value, apply (unapply value) = value) :
    (convert apply unapply g).HasForm (fun b => Valid (unapply b)) (fun b => form (unapply b))
      Follows where
  written := fun _ hb => h.written _ hb
  read := fun b rest hb hRest => Outcome.map_eq_done_iff.2
    ⟨unapply b, h.read _ rest hb hRest, hInverse b⟩

/-- What is written in the place of a value may be any text that is read. -/
theorem writtenBy (h : g.HasForm Valid form Follows) {writer : Grammar v Unit} {a : α}
    (ha : Valid a) (hWriter : writer.printToBuffer () = .done () (form a)) :
    (writtenBy g writer).HasText (form a) Follows where
  written := fun _ _ => hWriter
  read := fun _ rest _ hRest => Outcome.map_eq_done_iff.2 ⟨a, h.read a rest ha hRest, rfl⟩

end HasForm

/-! ### Repetitions -/

section Repetitions

variable {element : Grammar v α} {separator : Grammar v Unit} {bounds : Bounds} {values : List α}
  {Valid : α → Prop} {form : α → v.Text} {sep : v.Text}
  {Follows Follows' Ends : v.Text → Prop}

theorem printToBuffer_many (hElement : ∀ a ∈ values, element.printToBuffer a = .done () (form a))
    (hSeparator : separator.printToBuffer () = .done () sep)
    (hCount : bounds.allows values.length = true) :
    (many element separator bounds .list).printToBuffer values =
      .done () (sep.intercalate (values.map form)) :=
  printToBuffer_of_front hSeparator (WritableFront.of_forall hElement)
    (fun a ha => ⟨form a, hElement a ha⟩) hCount

/-- The forms of elements, each with the separator after it, make a chain. -/
theorem HasForm.chain (h : element.HasForm Valid form Follows)
    (hSep : separator.HasText sep Follows')
    (hNext : ∀ a rest, Valid a → Follows (sep ++ (form a ++ rest)) ∧ Follows' (form a ++ rest))
    (hValues : ∀ a ∈ values, Valid a) :
    ∀ rest, Follows (sep ++ rest) → Follows' rest →
      ∃ mark, Chain element.parse separator.parse (values.flatMap (form · ++ sep) ++ rest) values
        mark rest ∧ (sep = [] → mark = rest) := by
  induction values using List.reverseRecOn with
  | nil => exact fun rest _ _ => ⟨rest, .start, fun _ => rfl⟩
  | append_singleton front a ih =>
    intro rest hRest hRest'
    obtain ⟨hFront, hLast⟩ := List.forall_mem_append.1 hValues
    have ha := List.forall_mem_singleton.1 hLast
    obtain ⟨hBefore, hBefore'⟩ := hNext a (sep ++ rest) ha
    obtain ⟨mark, chain, -⟩ := ih hFront _ hBefore hBefore'
    refine ⟨sep ++ rest, ?_, fun hNil => by rw [hNil, List.nil_append]⟩
    have hRound := chain.round (h.read a _ ha hRest) (hSep.read () rest trivial hRest')
    simpa using hRound

/-- Elements with nothing between them, from a least number on, up to a place where no element is
read. -/
theorem HasForm.repeated (h : element.HasForm Valid form Follows) (hMost : bounds.most = none)
    (hConsuming : element.isConsuming = true)
    (hNext : ∀ a rest, Valid a → Follows (form a ++ rest))
    (hEnds : ∀ rest, Ends rest →
      Follows rest ∧ ∃ failure left, element.parse rest = .failed failure left) :
    (many element (always ()) bounds .list).HasForm
      (fun values => bounds.least ≤ values.length ∧ ∀ a ∈ values, Valid a)
      (fun values => values.flatMap form) Ends where
  written := fun values ⟨hLeast, hValues⟩ => by
    have hCount : bounds.allows values.length = true :=
      Bounds.allows_iff.2 ⟨hLeast, Bounds.isWithin_iff.2 (by simp [hMost])⟩
    rw [List.flatMap_def, ← intercalate_nil_eq]
    exact printToBuffer_many (fun a ha => h.written a (hValues a ha)) rfl hCount
  read := fun values rest ⟨hLeast, hValues⟩ hRest => by
    obtain ⟨hFollows, failure, left, hFailed⟩ := hEnds rest hRest
    obtain ⟨mark, chain, hMark⟩ := h.chain hasText_always
      (fun a rest ha => ⟨hNext a rest ha, trivial⟩) hValues rest hFollows trivial
    obtain rfl := hMark rfl
    simp only [List.append_nil] at chain
    have hRoom : bounds.hasRoom values.length = true := Bounds.hasRoom_iff.2 (by simp [hMost])
    have hCount : bounds.allows values.length = true :=
      Bounds.allows_iff.2 ⟨hLeast, Bounds.isWithin_of_hasRoom hRoom⟩
    have hMoves : ¬ Chain.Stalls v.size element.parse (always () : Grammar v Unit).parse bounds
        (values.flatMap form ++ mark) :=
      not_stalls_of_consumes (Or.inl (element.consumes_parse hConsuming)) _
    exact readMany_eq_done_iff.2 ⟨hMoves, values, .element chain hRoom hFailed, hCount,
      Accumulator.collect_list values⟩

/-- The same with any number of elements. -/
theorem HasForm.ofElement (h : element.HasForm Valid form Follows)
    (hConsuming : element.isConsuming = true)
    (hNext : ∀ a rest, Valid a → Follows (form a ++ rest))
    (hEnds : ∀ rest, Ends rest →
      Follows rest ∧ ∃ failure left, element.parse rest = .failed failure left) :
    (Repetition.ofElement element).grammar.HasForm (fun values => ∀ a ∈ values, Valid a)
      (fun values => values.flatMap form) Ends :=
  (h.repeated rfl hConsuming hNext hEnds).imp
    (fun values hValues => ⟨Nat.zero_le values.length, hValues⟩) fun _ _ => rfl

/-- Elements with a separator between them, up to a place where no separator is read. -/
theorem HasForm.separated (h : element.HasForm Valid form Follows)
    (hSep : separator.HasText sep Follows') (hConsuming : separator.isConsuming = true)
    (hNext : ∀ a rest, Valid a → Follows (sep ++ (form a ++ rest)) ∧ Follows' (form a ++ rest))
    (hEnds : ∀ rest, Ends rest →
      Follows rest ∧ ∃ failure left, separator.parse rest = .failed failure left) :
    (many element separator bounds .list).HasForm
      (fun values => values ≠ [] ∧ bounds.allows values.length = true ∧ ∀ a ∈ values, Valid a)
      (fun values => sep.intercalate (values.map form)) Ends where
  written := fun values ⟨_, hCount, hValues⟩ =>
    printToBuffer_many (fun a ha => h.written a (hValues a ha)) (hSep.written () trivial) hCount
  read := by
    rintro values rest ⟨hSome, hCount, hValues⟩ hRest
    obtain ⟨front, a, rfl⟩ := values.eq_nil_or_concat'.resolve_left hSome
    obtain ⟨hFront, hLast⟩ := List.forall_mem_append.1 hValues
    have ha := List.forall_mem_singleton.1 hLast
    obtain ⟨hFollows, failure, left, hFailed⟩ := hEnds rest hRest
    obtain ⟨hBefore, hBefore'⟩ := hNext a rest ha
    obtain ⟨mark, chain, -⟩ := h.chain hSep hNext hFront _ hBefore hBefore'
    have hRoom : bounds.hasRoom front.length = true := by
      simpa [Bounds.isWithin_succ] using (Bounds.allows_iff.1 hCount).2
    rw [List.map_append, List.map_singleton, intercalate_concat, List.flatMap_map,
      List.append_assoc]
    exact readMany_eq_done_iff.2
      ⟨not_stalls_of_consumes (Or.inr (separator.consumes_parse hConsuming)) _, front ++ [a],
        .separator chain hRoom (h.read a rest ha hFollows) hFailed, hCount,
        Accumulator.collect_list _⟩

/-- The same with any number of elements, up to a place where no element is read either. -/
theorem HasForm.separated_unbounded (h : element.HasForm Valid form Follows)
    (hSep : separator.HasText sep Follows') (hConsuming : separator.isConsuming = true)
    (hNext : ∀ a rest, Valid a → Follows (sep ++ (form a ++ rest)) ∧ Follows' (form a ++ rest))
    (hEnds : ∀ rest, Ends rest →
      Follows rest ∧ ∃ failure left, separator.parse rest = .failed failure left)
    (hNone : ∀ rest, Ends rest → ∃ failure left, element.parse rest = .failed failure left) :
    (many element separator .unbounded .list).HasForm (fun values => ∀ a ∈ values, Valid a)
      (fun values => sep.intercalate (values.map form)) Ends where
  written := fun values hValues =>
    printToBuffer_many (fun a ha => h.written a (hValues a ha)) (hSep.written () trivial) rfl
  read := by
    intro values rest hValues hRest
    by_cases hEmpty : values = []
    · subst hEmpty
      obtain ⟨failure, left, hFailed⟩ := hNone rest hRest
      exact readMany_eq_done_iff.2
        ⟨not_stalls_of_consumes (Or.inr (separator.consumes_parse hConsuming)) _, [],
          .element .start rfl hFailed, rfl, rfl⟩
    · exact (h.separated hSep hConsuming hNext hEnds).read values rest ⟨hEmpty, rfl, hValues⟩ hRest

end Repetitions

/-! ### Collections -/

section Collections

variable {ρ : Type} {element : Grammar v α} {separator : Grammar v Unit} {bounds : Bounds}
  {Valid : List α → Prop} {form : List α → v.Text} {Follows : v.Text → Prop}

/-- A collection is written in the form of its parts. -/
theorem HasForm.collected_written
    (h : (many element separator bounds .list).HasForm Valid form Follows) (acc : Accumulator α ρ)
    {value : ρ} (hParts : Valid (acc.parts value)) :
    (many element separator bounds acc).printToBuffer value = .done () (form (acc.parts value)) :=
  h.written (acc.parts value) hParts

/-- What is read is collected, whether it is the form of a collection or not. -/
theorem HasForm.collected_parseAll
    (h : (many element separator bounds .list).HasForm Valid form Follows) (acc : Accumulator α ρ)
    (hEnd : Follows []) {values : List α} (hValues : Valid values) :
    (many element separator bounds acc).parseAll (form values) =
      .done (acc.collect values) [] := by
  have hRead := h.read values [] hValues hEnd
  rw [List.append_nil] at hRead
  have hCollected : (many element separator bounds acc).parse (form values) =
      .done (acc.collect values) [] := by
    rw [(many_equiv_convert element separator bounds acc).parse_eq]
    exact Outcome.map_eq_done_iff.2 ⟨values, hRead, rfl⟩
  rw [Grammar.parseAll, hCollected]
  rfl

end Collections

/-! ## Normal forms -/

/-- Whatever is read is a value of the kind, and its form is no longer than what was read. -/
def Normalizes (g : Grammar v α) (Valid : α → Prop) (form : α → v.Text) : Prop :=
  ∀ text value rest, g.parse text = .done value rest →
    Valid value ∧ (form value).length + rest.length ≤ text.length

theorem normalizes_literal (text : v.Text) :
    (literal text).Normalizes (fun _ => True) fun _ => text := by
  intro whole value rest h
  rw [(readLiteral_eq_done_iff.1 h).1, List.length_append]
  exact ⟨trivial, Nat.le_refl _⟩

theorem normalizes_lineEnd (hv : v.hasCharacters = true) :
    (lineEnd : Grammar v Unit).Normalizes (fun _ => True) fun _ => v.shortLineEnd := by
  intro text value rest h
  have hLess := consumes_readLineEnd v text value rest h
  have hShort : v.shortLineEnd.length = 1 := by
    cases v with
    | graphemes => cases hv
    | chars | bytes | sharedBytes => rfl
  rw [hShort]
  exact ⟨trivial, by omega⟩

theorem normalizes_run (test : Test v) (bounds : Bounds) :
    (run test bounds).Normalizes
      (fun run => ∃ tokens, run = v.textOf tokens ∧ ∀ token ∈ tokens, test token = .ok true)
      id := by
  intro text value rest h
  obtain ⟨tokens, hTake, -, rfl⟩ := readRun_eq_done_iff.1 h
  refine ⟨⟨tokens, rfl, takeRun_accepts hTake⟩, ?_⟩
  rw [takeRun_eq_done hTake, List.length_append]
  exact Nat.le_refl _

namespace Normalizes

variable {g : Grammar v α} {g' : Grammar v β} {Valid : α → Prop} {Valid' : β → Prop}
  {form : α → v.Text} {form' : β → v.Text}

theorem andThen (h : g.Normalizes Valid form) (h' : g'.Normalizes Valid' form') {text rest : v.Text}
    {a : α} {b : β} (hDone : Step.andThen v.restart g.parse g'.parse text = .done (a, b) rest) :
    (Valid a ∧ Valid' b) ∧ (form a ++ form' b).length + rest.length ≤ text.length := by
  obtain ⟨middle, hFirst, hSecond⟩ := Step.andThen_eq_done_iff.1 hDone
  obtain ⟨ha, hLength⟩ := h text a middle hFirst
  obtain ⟨hb, hLength'⟩ := h' middle b rest hSecond
  rw [List.length_append]
  exact ⟨⟨ha, hb⟩, by omega⟩

theorem pair (h : g.Normalizes Valid form) (h' : g'.Normalizes Valid' form') :
    (pair g g').Normalizes (fun p => Valid p.1 ∧ Valid' p.2) fun p => form p.1 ++ form' p.2 :=
  fun _ _ _ hDone => h.andThen h' hDone

theorem thenSkip {second : Grammar v Unit} {text : v.Text} (h : g.Normalizes Valid form)
    (h' : second.Normalizes (fun _ => True) fun _ => text) :
    (thenSkip g second).Normalizes Valid fun a => form a ++ text := by
  intro whole a rest hDone
  obtain ⟨p, hBoth, rfl⟩ := Outcome.map_eq_done_iff.1 hDone
  obtain ⟨⟨ha, -⟩, hLength⟩ := h.andThen h' hBoth
  exact ⟨ha, hLength⟩

theorem convert (h : g.Normalizes Valid form) {apply : α → β} {unapply : β → α}
    (hInverse : ∀ value, unapply (apply value) = value) :
    (convert apply unapply g).Normalizes (fun b => Valid (unapply b))
      fun b => form (unapply b) := by
  intro text b rest hDone
  obtain ⟨a, hRead, rfl⟩ := Outcome.map_eq_done_iff.1 hDone
  simpa only [hInverse] using h text a rest hRead

/-- Along the rounds of a repetition, what is left makes up for the forms of its values. -/
theorem chain (h : g.Normalizes Valid form) {start mark pos : v.Text} {values : List α}
    (chain : Chain g.parse (Step.pure ()) start values mark pos) :
    mark = pos ∧ (∀ a ∈ values, Valid a) ∧
      (values.flatMap form).length + pos.length ≤ start.length := by
  induction chain with
  | start => simp
  | @round values mark pos next after a prior hElement hSeparator ih =>
    cases hSeparator
    obtain ⟨ha, hLength⟩ := h pos a next hElement
    obtain ⟨-, hValues, hMore⟩ := ih
    refine ⟨rfl, List.forall_mem_append.2 ⟨hValues, List.forall_mem_singleton.2 ha⟩, ?_⟩
    simp only [List.flatMap_append, List.flatMap_singleton, List.length_append]
    omega

theorem ofElement (h : g.Normalizes Valid form) :
    (Repetition.ofElement g).grammar.Normalizes (fun values => ∀ a ∈ values, Valid a)
      fun values => values.flatMap form := by
  intro text collected rest hDone
  obtain ⟨-, values, hStops, -, hCollected⟩ := readMany_eq_done_iff.1 hDone
  obtain rfl : values = collected := (Accumulator.collect_list values).symm.trans hCollected
  cases hStops with
  | full chain hFull => cases hFull
  | element chain hRoom hElement =>
    obtain ⟨rfl, hValues, hLength⟩ := h.chain chain
    exact ⟨hValues, hLength⟩
  | separator chain hRoom hElement hSeparator => cases hSeparator

end Normalizes

/-! ## Whole texts -/

theorem parse_of_parseAll {g : Grammar v α} {text rest : v.Text} {value : α}
    (h : g.parseAll text = .done value rest) : g.parse text = .done value rest := by
  unfold parseAll at h
  split at h
  · rename_i hRead
    split at h
    · rw [hRead, ← h]
    · cases h
  · exact h

/-- A guarded grammar whose tests always answer reads every text without a fault. -/
theorem parseAll_ne_aborted {g : Grammar v α} (hGuarded : g.isGuarded = true)
    (hTests : ∀ fault, ¬ g.Raises fault) (text : v.Text) (fault : Fault) :
    g.parseAll text ≠ .aborted fault := by
  intro h
  unfold parseAll at h
  split at h
  · split at h <;> cases h
  · exact hTests fault (g.abortsOnly_parse hGuarded text fault h)

end Grammar

end TwoWay
