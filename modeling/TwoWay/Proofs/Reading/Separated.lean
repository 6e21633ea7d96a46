import TwoWay.Format.Table
import TwoWay.Grammar.Repetition
import TwoWay.Proofs.Reading.Guarded

/-!
# Separated repetitions

Elements with a separator between them are an element and then any number of separators, each with
an element behind it. The two loops look at a text at different times. One tries a separator as soon
as it has an element, and gives it back if no element follows; the other starts with the separator
and fails as a whole. Their rounds are nevertheless the same, one out of step.

* `Chain.exists_links`: an element behind some rounds ends as many links behind the first element.
* `Chain.Stops.exists_links`: where the rounds stop, the links stop.
* `readMany_separated`: both loops come to the same outcome.
* `Grammar.parse_separated`: so do the two grammars.
-/

namespace TwoWay

/-! ## Bounds behind the first element -/

namespace Bounds

/-- The bounds on what follows when one has been counted. -/
def afterFirst (bounds : Bounds) : Bounds where
  least := bounds.least - 1
  most := bounds.most.map (· - 1)
  least_le := by
    intro limit hLimit
    obtain ⟨most, hMost, rfl⟩ := Option.map_eq_some_iff.1 hLimit
    have := bounds.least_le most hMost
    omega

theorem hasRoom_afterFirst (bounds : Bounds) (count : Nat) :
    bounds.afterFirst.hasRoom count = bounds.hasRoom (count + 1) := by
  rw [Bool.eq_iff_iff, hasRoom_iff, hasRoom_iff]
  simp only [afterFirst, Option.mem_def, Option.map_eq_some_iff, forall_exists_index, and_imp,
    forall_apply_eq_imp_iff₂]
  exact forall₂_congr fun most _ => by omega

theorem isWithin_afterFirst {bounds : Bounds} {count : Nat}
    (h : bounds.isWithin (count + 1) = true) : bounds.afterFirst.isWithin count = true := by
  rw [isWithin_iff] at h ⊢
  intro limit hLimit
  obtain ⟨most, hMost, rfl⟩ := Option.map_eq_some_iff.1 hLimit
  have := h most hMost
  omega

theorem most_afterFirst {bounds : Bounds} {count : Nat} (h : bounds.most = some (count + 1)) :
    bounds.afterFirst.most = some count := by
  show bounds.most.map (· - 1) = some count
  rw [h]
  rfl

end Bounds

/-! ## Rounds and links -/

section Chains

variable {σ α : Type} {element : Step σ α} {separator : Step σ Unit} {undo : σ → σ → σ}
  {bounds : Bounds} {start : σ}

/-- The separator and then the element, for the value of the element. -/
def Step.link (undo : σ → σ → σ) (separator : Step σ Unit) (element : Step σ α) : Step σ α :=
  Step.map Prod.snd (Step.andThen undo separator element)

namespace Step

theorem link_eq_done_iff {s rest : σ} {a : α} :
    link undo separator element s = .done a rest ↔
      ∃ after, separator s = .done () after ∧ element after = .done a rest := by
  unfold link map
  rw [Outcome.map_eq_done_iff]
  constructor
  · rintro ⟨⟨_, b⟩, hBoth, rfl⟩
    exact andThen_eq_done_iff.1 hBoth
  · rintro h
    exact ⟨((), a), andThen_eq_done_iff.2 h, rfl⟩

theorem link_of_separator_failed {s left : σ} {failure : Failure}
    (h : separator s = .failed failure left) :
    link undo separator element s = .failed failure left := by
  simp [link, map, andThen, h, Outcome.map]

theorem link_of_element_failed {s after left : σ} {failure : Failure}
    (hSeparator : separator s = .done () after) (h : element after = .failed failure left) :
    link undo separator element s = .failed failure (undo s left) := by
  simp [link, map, andThen, hSeparator, h, Outcome.map]

end Step

namespace Chain

/-- **An element behind some rounds ends as many links behind the first element.** -/
theorem exists_links (undo : σ → σ → σ) {values : List α} {mark pos next : σ} {a : α}
    (chain : Chain element separator start values mark pos)
    (hElement : element pos = .done a next) :
    ∃ x first xs, element start = .done x first ∧ values ++ [a] = x :: xs ∧
      Chain (Step.link undo separator element) (Step.pure ()) first xs next next := by
  induction chain generalizing a next with
  | start => exact ⟨a, next, [], hElement, rfl, .start⟩
  | @round values mark pos middle after b prior hDone hSeparator ih =>
    obtain ⟨x, first, xs, hFirst, hValues, links⟩ := ih hDone
    have hLink : Step.link undo separator element middle = .done a next :=
      Step.link_eq_done_iff.2 ⟨after, hSeparator, hElement⟩
    refine ⟨x, first, xs ++ [a], hFirst, ?_, links.round hLink rfl⟩
    rw [hValues, List.cons_append]

/-- **Where the rounds stop, the links stop**, unless there is no first element. -/
theorem Stops.exists_links (undo : σ → σ → σ) (hLeast : 0 < bounds.least) {values : List α}
    {mark : σ} (h : Stops element separator bounds start values mark) :
    (values = [] ∧ ∃ failure left, element start = .failed failure left) ∨
      ∃ x first xs, element start = .done x first ∧ values = x :: xs ∧
        Stops (Step.link undo separator element) (Step.pure ()) bounds.afterFirst first xs
          mark := by
  cases h with
  | full chain hFull =>
    cases chain with
    | start => exact absurd (bounds.least_le 0 hFull) (Nat.not_le_of_lt hLeast)
    | round prior hDone hSeparator =>
      obtain ⟨x, first, xs, hFirst, hValues, links⟩ := prior.exists_links undo hDone
      rw [hValues] at hFull
      exact Or.inr ⟨x, first, xs, hFirst, hValues, .full links (Bounds.most_afterFirst hFull)⟩
  | element chain hRoom hFailed =>
    cases chain with
    | start => exact Or.inl ⟨rfl, _, _, hFailed⟩
    | round prior hDone hSeparator =>
      obtain ⟨x, first, xs, hFirst, hValues, links⟩ := prior.exists_links undo hDone
      rw [hValues, List.length_cons, ← Bounds.hasRoom_afterFirst] at hRoom
      exact Or.inr ⟨x, first, xs, hFirst, hValues,
        .element links hRoom (Step.link_of_element_failed hSeparator hFailed)⟩
  | @separator values mark pos next left a failure chain hRoom hDone hFailed =>
    obtain ⟨x, first, xs, hFirst, hValues, links⟩ := chain.exists_links undo hDone
    have hLength : values.length = xs.length := by simpa using congrArg List.length hValues
    refine Or.inr ⟨x, first, xs, hFirst, hValues, ?_⟩
    -- the links only try this separator if there is room for an element behind it
    by_cases hMore : bounds.afterFirst.hasRoom xs.length = true
    · exact .element links hMore (Step.link_of_separator_failed hFailed)
    · have hWithin : bounds.afterFirst.isWithin xs.length = true := by
        rw [hLength, ← Bounds.isWithin_succ] at hRoom
        exact Bounds.isWithin_afterFirst hRoom
      exact .full links (Bounds.most_eq_of_not_hasRoom hWithin hMore)

theorem not_breaks {fault : Fault} (hElement : ∀ s fault, element s ≠ .aborted fault)
    (hSeparator : ∀ s fault, separator s ≠ .aborted fault) :
    ¬ Breaks element separator bounds start fault := by
  rintro (⟨-, -, hAborted⟩ | ⟨-, -, -, hAborted⟩)
  · exact hElement _ _ hAborted
  · exact hSeparator _ _ hAborted

end Chain

end Chains

/-! ## The two loops -/

section Loops

variable {σ α : Type} {size : σ → Nat} {element : Step σ α} {separator : Step σ Unit}
  {undo : σ → σ → σ} {bounds : Bounds} {start : σ}

/-- **A separated repetition is an element and its links.**  Both loops come to the same outcome if
neither the element nor the separator is given up and neither loop stalls. -/
theorem readMany_separated (hLeast : 0 < bounds.least) (hUndo : ∀ s now, undo s now = s)
    (hRestores : element.Restores .parse) (hElement : ∀ s fault, element s ≠ .aborted fault)
    (hSeparator : ∀ s fault, separator s ≠ .aborted fault)
    (hRounds : ¬ Chain.Stalls size element separator bounds start)
    (hLinks : ∀ first, ¬ Chain.Stalls size (Step.link undo separator element) (Step.pure ())
      bounds.afterFirst first) :
    readMany size element separator bounds .list start =
        (Step.andThen undo element (readMany size (Step.link undo separator element) (Step.pure ())
          bounds.afterFirst .list) start).map (fun parts => parts.1 :: parts.2) ∧
      ∀ fault, readMany size element separator bounds .list start ≠ .aborted fault := by
  rcases readMany_cases size element separator bounds .list start with
    ⟨values, mark, hStops, hEnd⟩ | ⟨fault, hBreaks, -⟩ | ⟨hStalls, -⟩
  · rw [hEnd]
    refine ⟨?_, fun fault => settle_ne_aborted⟩
    rcases hStops.exists_links undo hLeast with
      ⟨rfl, failure, left, hFailed⟩ | ⟨x, first, xs, hFirst, rfl, hStops'⟩
    · obtain ⟨rfl, rfl⟩ := hRestores _ _ _ hFailed
      simp only [Step.andThen, hFailed, Outcome.map]
      exact settle_eq_failed_iff.2 ⟨hLeast, rfl, rfl⟩
    · have hMore : readMany size (Step.link undo separator element) (Step.pure ())
          bounds.afterFirst .list first = _ := readMany_of_stops (hLinks first) hStops'
      have hEnough : bounds.afterFirst.least ≤ xs.length ↔ bounds.least ≤ (x :: xs).length :=
        Nat.sub_le_iff_le_add
      simp only [Step.andThen, hFirst, hMore, Accumulator.collect_list, settle, hEnough]
      split
      · rfl
      · simp only [Outcome.map, hUndo]
  · exact absurd hBreaks (Chain.not_breaks hElement hSeparator)
  · exact absurd hStalls hRounds

end Loops

/-! ## The two grammars -/

theorem Bounds.le_of_mem_some {least most : Nat} (h : least ≤ most) :
    ∀ limit ∈ some most, least ≤ limit := by
  intro limit hLimit
  rw [← Option.some.inj hLimit]
  exact h

/-- All counts from a least one to a greatest one. -/
def Bounds.between (least most : Nat) (h : least ≤ most) : Bounds :=
  ⟨least, some most, le_of_mem_some h⟩

/-- The settings that bound the count of a repetition on both sides. -/
def Settings.between {v : View} {α ρ : Type} (least most : Nat) : Settings v α ρ ρ :=
  .cons (.bound (.atLeast least)) (.cons (.bound (.atMost most)) .nil)

theorem Settings.apply?_between {v : View} {α ρ : Type} {repetition : Repetition v α ρ}
    (hOpen : repetition.bounds = .unbounded) {least most : Nat} (h : least ≤ most) :
    Settings.apply? (between least most) repetition =
      .ok { repetition with bounds := .between least most h } := by
  simp [between, Settings.apply?, Repetition.set?, Bounds.change?, Bounds.atLeast?,
    Bounds.atMost?, hOpen, Bounds.unbounded, Bounds.orMore, h, Bounds.between]

namespace Grammar

open Step (Consumes)

variable {v : View} {α : Type} {element : Grammar v α} {separator : Grammar v Unit}

theorem consumes_skipThen (hConsumes : Consumes element.parse ∨ Consumes separator.parse) :
    Consumes (skipThen separator element).parse := by
  rcases hConsumes with hElement | hSeparator
  · exact (Step.Consumes.andThen_right separator.advances_parse hElement).map Prod.snd
  · exact (hSeparator.andThen_left element.advances_parse).map Prod.snd

theorem parse_many_separated {bounds : Bounds} (hLeast : 0 < bounds.least)
    (hElement : ∀ text fault, element.parse text ≠ .aborted fault)
    (hSeparator : ∀ text fault, separator.parse text ≠ .aborted fault)
    (hConsumes : Consumes element.parse ∨ Consumes separator.parse) (text : v.Text) :
    (many element separator bounds .list).parse text =
        ((pair element (many (skipThen separator element) (always ()) bounds.afterFirst
          .list)).parse text).map (fun parts => parts.1 :: parts.2) ∧
      ∀ fault, (many element separator bounds .list).parse text ≠ .aborted fault := by
  have hLinks : Consumes (skipThen separator element).parse ∨
      Consumes (always () : Grammar v Unit).parse := Or.inl (consumes_skipThen hConsumes)
  exact readMany_separated hLeast (fun _ _ => rfl) element.restores_parse hElement hSeparator
    (not_stalls_of_consumes hConsumes text) (not_stalls_of_consumes hLinks)

/-- **A separated repetition is its first element and the links behind it.**  Let the element or the
separator consume, and let neither of them end in a fault. From a least count that is not zero on,
the repetition of the element with the separator comes to the same outcome, with the same list and
the same rest, as the element followed by a repetition of the separator with the element behind it,
one time less. Neither of the two ends in a fault. -/
theorem parse_separated (element : Grammar v α) (separator : Grammar v Unit) (least most : Nat)
    (hLeast : 1 ≤ least) (hMost : least ≤ most)
    (hElement : ∀ text fault, element.parse text ≠ .aborted fault)
    (hSeparator : ∀ text fault, separator.parse text ≠ .aborted fault)
    (hConsumes : Consumes element.parse ∨ Consumes separator.parse) :
    let bounds := Bounds.between least most hMost
    let separated : Repetition v α (List α) := ⟨element, separator, bounds, .list⟩
    let links : Repetition v α (List α) :=
      ⟨skipThen separator element, always (), bounds.afterFirst, .list⟩
    Settings.apply? (.cons (.separatedBy separator) (.between least most)) (.ofElement element) =
        .ok separated ∧
      Settings.apply? (.between (least - 1) (most - 1)) (.ofElement (skipThen separator element)) =
        .ok links ∧
      ∀ text,
        separated.grammar.parse text =
            ((pair element links.grammar).parse text).map (fun parts => parts.1 :: parts.2) ∧
          (∀ fault, separated.grammar.parse text ≠ .aborted fault) ∧
          ∀ fault, (pair element links.grammar).parse text ≠ .aborted fault := by
  intro bounds separated links
  refine ⟨Settings.apply?_between rfl hMost,
    Settings.apply?_between rfl (Nat.sub_le_sub_right hMost 1), fun text => ?_⟩
  have hBounds : 0 < bounds.least := hLeast
  obtain ⟨hAgree, hTotal⟩ := parse_many_separated hBounds hElement hSeparator hConsumes text
  refine ⟨hAgree, hTotal, fun fault hAborted => hTotal fault ?_⟩
  exact hAgree.trans (Outcome.map_eq_aborted_iff.2 hAborted)

/-- Two or three cells, of which one is empty, and a comma behind the last. -/
theorem parse_separated_cells :
    let comma : Grammar .chars Unit := .literal [',']
    let bounds := Bounds.between 2 3 (by decide)
    let links : Grammar .chars (List (List Char)) :=
      .many (skipThen comma Format.cell) (always ()) bounds.afterFirst .list
    let text := ['a', ',', ',', 'b', ',']
    1 ≤ 2 ∧ 2 ≤ 3 ∧ (∀ text fault, Format.cell.parse text ≠ .aborted fault) ∧
      (∀ text fault, comma.parse text ≠ .aborted fault) ∧ Consumes comma.parse ∧
      (many Format.cell comma bounds .list).parse text = .done [['a'], [], ['b']] [','] ∧
      (pair Format.cell links).parse text = .done (['a'], [[], ['b']]) [','] := by
  intro comma bounds links text
  have hCell : ∀ text fault, Format.cell.parse text ≠ .aborted fault := by
    intro text fault hAborted
    obtain ⟨token, hTest⟩ := Format.cell.abortsOnly_parse rfl text fault hAborted
    cases hTest
  have hComma : ∀ text fault, comma.parse text ≠ .aborted fault :=
    readLiteral_ne_aborted (v := .chars) [',']
  have hConsumes : Consumes comma.parse := comma.consumes_parse rfl
  obtain ⟨-, -, hAgree⟩ :=
    parse_separated Format.cell comma 2 3 (by decide) (by decide) hCell hComma (Or.inr hConsumes)
  have hLinks : (pair Format.cell links).parse text = .done (['a'], [[], ['b']]) [','] := by
    decide +kernel
  refine ⟨by decide, by decide, hCell, hComma, hConsumes, ?_, hLinks⟩
  exact (hAgree text).1.trans (congrArg (Outcome.map fun parts => parts.1 :: parts.2) hLinks)

end Grammar

end TwoWay
