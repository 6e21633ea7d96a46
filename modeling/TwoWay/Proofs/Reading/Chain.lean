import TwoWay.Repetition.Read

/-!
# The chain of a repetition

The element and the separator of a repetition, done in turns from where the reading starts, make a
chain of rounds. This file says what `readMany` comes to in terms of the chain alone, which knows
nothing of counters, collections and marks.

* `Chain`: some rounds in which both the element and the separator were read.
* `Chain.Stops`: the first stop of the chain, with the values of the elements that were accepted
  and the place where the last of them ended.
* `Chain.Breaks`: a fault inside the element or the separator.
* `Chain.HasRound`: a round that the bounds leave room for, from one place to another.
* `Chain.Stops.unique`: a chain stops in one place at most.
* `readMany_eq_done_iff`, `readMany_eq_failed_iff`, `readMany_eq_aborted_iff`: what a repetition
  comes to, by where its chain stops. A round that leaves no less than there was outweighs every
  stop.
-/

namespace TwoWay

variable {σ α ρ : Type}

/-! ## Rounds -/

/-- Rounds of an element and a separator from a start: the values of the elements, where the last
element ended, and where its separator did. -/
inductive Chain (element : Step σ α) (separator : Step σ Unit) (start : σ) :
    List α → σ → σ → Prop
  | start : Chain element separator start [] start start
  | round {values : List α} {mark pos next after : σ} {a : α}
      (prior : Chain element separator start values mark pos)
      (hElement : element pos = .done a next) (hSeparator : separator next = .done () after) :
      Chain element separator start (values ++ [a]) next after

namespace Chain

/-- Where a chain stops: the greatest number of elements was accepted, or the element fails, or the
separator fails after one more element. -/
inductive Stops (element : Step σ α) (separator : Step σ Unit) (bounds : Bounds) (start : σ) :
    List α → σ → Prop
  | full {values : List α} {mark pos : σ} (chain : Chain element separator start values mark pos)
      (hFull : bounds.most = some values.length) : Stops element separator bounds start values mark
  | element {values : List α} {mark pos left : σ} {failure : Failure}
      (chain : Chain element separator start values mark pos)
      (hRoom : bounds.hasRoom values.length = true)
      (hElement : element pos = .failed failure left) :
      Stops element separator bounds start values mark
  | separator {values : List α} {mark pos next left : σ} {a : α} {failure : Failure}
      (chain : Chain element separator start values mark pos)
      (hRoom : bounds.hasRoom values.length = true) (hElement : element pos = .done a next)
      (hSeparator : separator next = .failed failure left) :
      Stops element separator bounds start (values ++ [a]) next

/-- A chain that reaches a fault of its element or its separator. -/
inductive Breaks (element : Step σ α) (separator : Step σ Unit) (bounds : Bounds) (start : σ) :
    Fault → Prop
  | element {values : List α} {mark pos : σ} {fault : Fault}
      (chain : Chain element separator start values mark pos)
      (hRoom : bounds.hasRoom values.length = true) (hElement : element pos = .aborted fault) :
      Breaks element separator bounds start fault
  | separator {values : List α} {mark pos next : σ} {a : α} {fault : Fault}
      (chain : Chain element separator start values mark pos)
      (hRoom : bounds.hasRoom values.length = true) (hElement : element pos = .done a next)
      (hSeparator : separator next = .aborted fault) : Breaks element separator bounds start fault

/-- A round of a chain that the bounds leave room for, from one place to another. -/
inductive HasRound (element : Step σ α) (separator : Step σ Unit) (bounds : Bounds) (start : σ) :
    σ → σ → Prop
  | intro {values : List α} {mark pos next after : σ} {a : α}
      (chain : Chain element separator start values mark pos)
      (hRoom : bounds.hasRoom values.length = true) (hElement : element pos = .done a next)
      (hSeparator : separator next = .done () after) :
      HasRound element separator bounds start pos after

/-- A chain with a round that leaves no less than there was. -/
def Stalls (size : σ → Nat) (element : Step σ α) (separator : Step σ Unit) (bounds : Bounds)
    (start : σ) : Prop :=
  ∃ pos after, HasRound element separator bounds start pos after ∧ size pos ≤ size after

variable {element : Step σ α} {separator : Step σ Unit} {bounds : Bounds} {start : σ}

theorem Stops.isWithin {values : List α} {mark : σ}
    (h : Stops element separator bounds start values mark) :
    bounds.isWithin values.length = true := by
  cases h with
  | full chain hFull => exact Bounds.isWithin_iff.2 fun most hMost => by simp_all
  | element chain hRoom hElement => exact Bounds.isWithin_of_hasRoom hRoom
  | separator chain hRoom hElement hSeparator =>
    rwa [List.length_append, List.length_singleton, Bounds.isWithin_succ]

/-! ## One chain, one stop -/

/-- There is one chain of a given length. -/
theorem unique {values values' : List α} {mark mark' pos pos' : σ}
    (chain : Chain element separator start values mark pos)
    (chain' : Chain element separator start values' mark' pos')
    (hLength : values.length = values'.length) : values = values' ∧ mark = mark' ∧ pos = pos' := by
  induction chain generalizing values' mark' pos' with
  | start =>
    cases chain' with
    | start => exact ⟨rfl, rfl, rfl⟩
    | round prior' hElement' hSeparator' => simp at hLength
  | round prior hElement hSeparator ih =>
    cases chain' with
    | start => simp at hLength
    | round prior' hElement' hSeparator' =>
      simp only [List.length_append, List.length_singleton, Nat.add_right_cancel_iff] at hLength
      obtain ⟨rfl, rfl, rfl⟩ := ih prior' hLength
      rw [hElement] at hElement'
      cases hElement'
      rw [hSeparator] at hSeparator'
      cases hSeparator'
      exact ⟨rfl, rfl, rfl⟩

/-- Where a chain ends and another goes on, there is a round. -/
theorem exists_round {values values' : List α} {mark mark' pos pos' : σ}
    (chain : Chain element separator start values mark pos)
    (chain' : Chain element separator start values' mark' pos')
    (hLength : values.length < values'.length) :
    ∃ a next after, element pos = .done a next ∧ separator next = .done () after := by
  induction chain' with
  | start => simp at hLength
  | @round values' mark' pos' next after a prior' hElement hSeparator ih =>
    rw [List.length_append, List.length_singleton] at hLength
    rcases Nat.lt_succ_iff_lt_or_eq.1 hLength with hLess | hEq
    · exact ih hLess
    · obtain ⟨-, -, rfl⟩ := unique chain prior' hEq
      exact ⟨a, next, after, hElement, hSeparator⟩

theorem compare {values values' : List α} {mark mark' pos pos' : σ}
    (chain : Chain element separator start values mark pos)
    (chain' : Chain element separator start values' mark' pos') :
    (values = values' ∧ mark = mark' ∧ pos = pos') ∨
    (values.length < values'.length ∧
      ∃ a next after, element pos = .done a next ∧ separator next = .done () after) ∨
    (values'.length < values.length ∧
      ∃ a next after, element pos' = .done a next ∧ separator next = .done () after) := by
  rcases Nat.lt_trichotomy values.length values'.length with hLess | hEq | hMore
  · exact Or.inr (Or.inl ⟨hLess, exists_round chain chain' hLess⟩)
  · exact Or.inl (unique chain chain' hEq)
  · exact Or.inr (Or.inr ⟨hMore, exists_round chain' chain hMore⟩)

/-- A chain stops in one place at most. -/
theorem Stops.unique {values values' : List α} {mark mark' : σ}
    (h : Stops element separator bounds start values mark)
    (h' : Stops element separator bounds start values' mark') :
    values = values' ∧ mark = mark' := by
  -- of two chains of different lengths, the shorter one has a round where it is said to stop
  cases h with
  | full chain hFull =>
    cases h' with
    | full chain' hFull' =>
      have hCompare := chain.compare chain'
      grind
    | element chain' hRoom' hElement' =>
      have hCompare := chain.compare chain'
      have hLess := Bounds.hasRoom_iff.1 hRoom' _ hFull
      grind
    | separator chain' hRoom' hElement' hSeparator' =>
      have hCompare := chain.compare chain'
      have hLess := Bounds.hasRoom_iff.1 hRoom' _ hFull
      grind
  | element chain hRoom hElement =>
    cases h' with
    | full chain' hFull' =>
      have hCompare := chain.compare chain'
      have hLess := Bounds.hasRoom_iff.1 hRoom _ hFull'
      grind
    | element chain' hRoom' hElement' =>
      have hCompare := chain.compare chain'
      grind
    | separator chain' hRoom' hElement' hSeparator' =>
      have hCompare := chain.compare chain'
      grind
  | separator chain hRoom hElement hSeparator =>
    cases h' with
    | full chain' hFull' =>
      have hCompare := chain.compare chain'
      have hLess := Bounds.hasRoom_iff.1 hRoom _ hFull'
      grind
    | element chain' hRoom' hElement' =>
      have hCompare := chain.compare chain'
      grind
    | separator chain' hRoom' hElement' hSeparator' =>
      have hCompare := chain.compare chain'
      grind

end Chain

/-! ## From the chain to the outcome -/

section Outcome

variable {size : σ → Nat} {element : Step σ α} {separator : Step σ Unit} {bounds : Bounds}
  {acc : Accumulator α ρ} {start : σ}

open Chain

/-- **A repetition follows its chain.**  At the end of a chain without a stall it goes on from there
with the values of the chain collected. -/
theorem readMany_of_chain (size : σ → Nat) (acc : Accumulator α ρ) {values : List α} {mark pos : σ}
    (chain : Chain element separator start values mark pos)
    (hWithin : bounds.isWithin values.length = true) :
    Stalls size element separator bounds start ∧
        readMany size element separator bounds acc start = .aborted .noProgress ∨
      readMany size element separator bounds acc start =
        readMore size element separator bounds acc.add start values.length (acc.collect values)
          mark pos := by
  induction chain with
  | start => exact Or.inr rfl
  | @round values mark pos next after a prior hElement hSeparator ih =>
    rw [List.length_append, List.length_singleton] at hWithin ⊢
    have hRoom : bounds.hasRoom values.length = true := by rwa [Bounds.isWithin_succ] at hWithin
    rcases ih (Bounds.isWithin_of_hasRoom hRoom) with hStall | hMore
    · exact Or.inl hStall
    · -- the loop looks at this round before it asks whether there may be another
      by_cases hLess : size after < size pos
      · rw [readMore_of_round hRoom hElement hSeparator hLess, ← acc.collect_concat] at hMore
        exact Or.inr hMore
      · rw [readMore_of_stall hRoom hElement hSeparator hLess] at hMore
        exact Or.inl ⟨⟨pos, after, .intro prior hRoom hElement hSeparator, by omega⟩, hMore⟩

theorem readMany_of_stalls (h : Stalls size element separator bounds start) :
    readMany size element separator bounds acc start = .aborted .noProgress := by
  obtain ⟨pos, after, ⟨chain, hRoom, hElement, hSeparator⟩, hLe⟩ := h
  rcases readMany_of_chain size acc chain (Bounds.isWithin_of_hasRoom hRoom) with hStall | hMore
  · exact hStall.2
  · rw [hMore, readMore_of_stall hRoom hElement hSeparator (Nat.not_lt_of_le hLe)]

theorem not_stalls (acc : Accumulator α ρ)
    (h : readMany size element separator bounds acc start ≠ .aborted .noProgress) :
    ¬ Stalls size element separator bounds start :=
  fun hStall => h (readMany_of_stalls hStall)

/-- Without a stall, a repetition gets to the end of every chain. -/
theorem readMany_eq_readMore (hMoves : ¬ Stalls size element separator bounds start)
    {values : List α} {mark pos : σ} (chain : Chain element separator start values mark pos)
    (hWithin : bounds.isWithin values.length = true) :
    readMany size element separator bounds acc start =
      readMore size element separator bounds acc.add start values.length (acc.collect values)
        mark pos :=
  (readMany_of_chain size acc chain hWithin).resolve_left fun hStall => hMoves hStall.1

/-- Without a stall, a repetition ends where its chain stops. -/
theorem readMany_of_stops (hMoves : ¬ Stalls size element separator bounds start)
    {values : List α} {mark : σ} (h : Stops element separator bounds start values mark) :
    readMany size element separator bounds acc start =
      settle bounds start values.length (acc.collect values) mark := by
  cases h with
  | full chain hFull =>
    rw [readMany_eq_readMore hMoves chain (Bounds.isWithin_iff.2 (by simp [hFull])),
      readMore_of_full (by rw [Bounds.hasRoom_iff]; simp [hFull])]
  | element chain hRoom hElement =>
    rw [readMany_eq_readMore hMoves chain (Bounds.isWithin_of_hasRoom hRoom),
      readMore_of_failed hElement]
  | separator chain hRoom hElement hSeparator =>
    rw [readMany_eq_readMore hMoves chain (Bounds.isWithin_of_hasRoom hRoom),
      readMore_of_separator_failed hRoom hElement hSeparator, List.length_append,
      List.length_singleton, acc.collect_concat]

/-- Without a stall, a fault inside ends the repetition. -/
theorem readMany_of_breaks (hMoves : ¬ Stalls size element separator bounds start) {fault : Fault}
    (h : Breaks element separator bounds start fault) :
    readMany size element separator bounds acc start = .aborted fault := by
  cases h with
  | element chain hRoom hElement =>
    rw [readMany_eq_readMore hMoves chain (Bounds.isWithin_of_hasRoom hRoom),
      readMore_of_aborted hRoom hElement]
  | separator chain hRoom hElement hSeparator =>
    rw [readMany_eq_readMore hMoves chain (Bounds.isWithin_of_hasRoom hRoom),
      readMore_of_separator_aborted hRoom hElement hSeparator]

/-! ## From the outcome to the chain -/

/-- The three ends of a repetition, wherever on its chain it is. -/
theorem readMore_cases {count : Nat} {value : ρ} {mark pos : σ} :
    ∀ {values : List α}, Chain element separator start values mark pos →
      count = values.length → value = acc.collect values → bounds.isWithin count = true →
      (∃ values mark', Stops element separator bounds start values mark' ∧
        readMore size element separator bounds acc.add start count value mark pos =
          settle bounds start values.length (acc.collect values) mark') ∨
      (∃ fault, Breaks element separator bounds start fault ∧
        readMore size element separator bounds acc.add start count value mark pos =
          .aborted fault) ∨
      Stalls size element separator bounds start ∧
        readMore size element separator bounds acc.add start count value mark pos =
          .aborted .noProgress := by
  fun_induction readMore size element separator bounds acc.add start count value mark pos with
  | case1 count value mark pos hRoom fault hElement =>
    rintro values chain rfl rfl hWithin
    exact Or.inr (Or.inl ⟨fault, .element chain hRoom hElement, rfl⟩)
  | case2 count value mark pos hRoom failure left hElement =>
    rintro values chain rfl rfl hWithin
    exact Or.inl ⟨values, mark, .element chain hRoom hElement, rfl⟩
  | case3 count value mark pos hRoom a next hElement fault hSeparator =>
    rintro values chain rfl rfl hWithin
    exact Or.inr (Or.inl ⟨fault, .separator chain hRoom hElement hSeparator, rfl⟩)
  | case4 count value mark pos hRoom a next hElement failure left hSeparator =>
    rintro values chain rfl rfl hWithin
    refine Or.inl ⟨values ++ [a], next, .separator chain hRoom hElement hSeparator, ?_⟩
    rw [List.length_append, List.length_singleton, acc.collect_concat]
  | case5 count value mark pos hRoom a next hElement _ after hSeparator hLess ih =>
    rintro values chain rfl rfl hWithin
    refine ih (chain.round hElement hSeparator) ?_ (acc.collect_concat values a).symm
      (Bounds.isWithin_succ.trans hRoom)
    rw [List.length_append, List.length_singleton]
  | case6 count value mark pos hRoom a next hElement _ after hSeparator hLess =>
    rintro values chain rfl rfl hWithin
    exact Or.inr (Or.inr
      ⟨⟨pos, after, .intro chain hRoom hElement hSeparator, Nat.le_of_not_lt hLess⟩, rfl⟩)
  | case7 count value mark pos hRoom =>
    rintro values chain rfl rfl hWithin
    exact Or.inl ⟨values, mark, .full chain (Bounds.most_eq_of_not_hasRoom hWithin hRoom), rfl⟩

theorem readMany_cases (size : σ → Nat) (element : Step σ α) (separator : Step σ Unit)
    (bounds : Bounds) (acc : Accumulator α ρ) (start : σ) :
    (∃ values mark, Stops element separator bounds start values mark ∧
      readMany size element separator bounds acc start =
        settle bounds start values.length (acc.collect values) mark) ∨
    (∃ fault, Breaks element separator bounds start fault ∧
      readMany size element separator bounds acc start = .aborted fault) ∨
    Stalls size element separator bounds start ∧
      readMany size element separator bounds acc start = .aborted .noProgress :=
  readMore_cases Chain.start rfl rfl bounds.isWithin_zero

/-! ## The outcomes -/

theorem readMany_eq_done_iff {value : ρ} {rest : σ} :
    readMany size element separator bounds acc start = .done value rest ↔
      ¬ Stalls size element separator bounds start ∧
        ∃ values, Stops element separator bounds start values rest ∧
          bounds.allows values.length = true ∧ acc.collect values = value := by
  constructor
  · intro h
    refine ⟨not_stalls acc (by simp [h]), ?_⟩
    rcases readMany_cases size element separator bounds acc start with
      ⟨values, mark, hStops, hEnd⟩ | ⟨fault, -, hEnd⟩ | ⟨-, hEnd⟩
    · rw [hEnd, settle_eq_done_iff] at h
      obtain ⟨hLeast, hValue, rfl⟩ := h
      exact ⟨values, hStops, Bounds.allows_iff.2 ⟨hLeast, hStops.isWithin⟩, hValue⟩
    · rw [hEnd] at h; cases h
    · rw [hEnd] at h; cases h
  · rintro ⟨hMoves, values, hStops, hAllows, rfl⟩
    rw [readMany_of_stops hMoves hStops]
    exact settle_eq_done_iff.2 ⟨(Bounds.allows_iff.1 hAllows).1, rfl, rfl⟩

theorem readMany_eq_failed_iff {failure : Failure} {left : σ} :
    readMany size element separator bounds acc start = .failed failure left ↔
      (failure = .parse ∧ left = start) ∧ ¬ Stalls size element separator bounds start ∧
        ∃ values mark, Stops element separator bounds start values mark ∧
          values.length < bounds.least := by
  constructor
  · intro h
    have hMoves : ¬ Stalls size element separator bounds start := not_stalls acc (by simp [h])
    rcases readMany_cases size element separator bounds acc start with
      ⟨values, mark, hStops, hEnd⟩ | ⟨fault, -, hEnd⟩ | ⟨-, hEnd⟩
    · rw [hEnd, settle_eq_failed_iff] at h
      exact ⟨h.2, hMoves, values, mark, hStops, h.1⟩
    · rw [hEnd] at h; cases h
    · rw [hEnd] at h; cases h
  · rintro ⟨⟨rfl, rfl⟩, hMoves, values, mark, hStops, hFew⟩
    rw [readMany_of_stops hMoves hStops]
    exact settle_eq_failed_iff.2 ⟨hFew, rfl, rfl⟩

theorem readMany_eq_aborted_iff {fault : Fault} :
    readMany size element separator bounds acc start = .aborted fault ↔
      Stalls size element separator bounds start ∧ fault = .noProgress ∨
        ¬ Stalls size element separator bounds start ∧
          Breaks element separator bounds start fault := by
  constructor
  · intro h
    by_cases hStall : Stalls size element separator bounds start
    · rw [readMany_of_stalls hStall] at h
      cases h
      exact Or.inl ⟨hStall, rfl⟩
    · refine Or.inr ⟨hStall, ?_⟩
      rcases readMany_cases size element separator bounds acc start with
        ⟨values, mark, hStops, hEnd⟩ | ⟨fault', hBreaks, hEnd⟩ | ⟨hStall', -⟩
      · rw [hEnd] at h
        exact absurd h settle_ne_aborted
      · rw [hEnd] at h
        cases h
        exact hBreaks
      · exact absurd hStall' hStall
  · rintro (⟨hStall, rfl⟩ | ⟨hMoves, hBreaks⟩)
    · exact readMany_of_stalls hStall
    · exact readMany_of_breaks hMoves hBreaks

end Outcome

end TwoWay
