import TwoWay.Bounds
import TwoWay.Outcome
import TwoWay.Repetition.Accumulator

/-!
# Reading a repetition

Elements are read until one fails, the separator after one fails, or there is room for no more. The
separator is still tried after the last element there is room for, but what it consumed counts only
when another element follows. With too few elements the repetition fails where it started.

An element and a separator that both succeed and leave no less than there was would go on for ever,
so the repetition is given up; it therefore ends after as many rounds as there are bytes to read.
-/

namespace TwoWay

variable {σ α ρ : Type}

/-- Ends a repetition after a number of elements: where the last one ended, or in failure at the
start if there are too few. -/
def settle (bounds : Bounds) (start : σ) (count : Nat) (value : ρ) (mark : σ) : Outcome σ ρ :=
  if bounds.least ≤ count then .done value mark else .failed .parse start

theorem settle_eq_done_iff {bounds : Bounds} {start mark rest : σ} {count : Nat}
    {value found : ρ} :
    settle bounds start count value mark = .done found rest ↔
      bounds.least ≤ count ∧ value = found ∧ mark = rest := by
  unfold settle
  split <;> simp [*]

theorem settle_eq_failed_iff {bounds : Bounds} {start mark left : σ} {count : Nat} {value : ρ}
    {failure : Failure} :
    settle bounds start count value mark = .failed failure left ↔
      count < bounds.least ∧ failure = .parse ∧ left = start := by
  unfold settle
  split
  · simp only [reduceCtorEq, false_iff]
    omega
  · rename_i hFew
    rw [Outcome.failed.injEq, eq_comm, eq_comm (a := start)]
    exact (and_iff_right (by omega)).symm

theorem settle_ne_aborted {bounds : Bounds} {start mark : σ} {count : Nat} {value : ρ}
    {fault : Fault} : settle bounds start count value mark ≠ .aborted fault := by
  unfold settle
  split <;> simp

/-- Goes on with a repetition. `value` is collected from the `count` elements so far, the last of
which left off at `mark`. -/
def readMore (size : σ → Nat) (element : Step σ α) (separator : Step σ Unit) (bounds : Bounds)
    (add : ρ → α → ρ) (start : σ) (count : Nat) (value : ρ) (mark s : σ) : Outcome σ ρ :=
  if bounds.hasRoom count then
    match element s with
    | .aborted fault => .aborted fault
    | .failed _ _ => settle bounds start count value mark
    | .done a s₁ =>
      match separator s₁ with
      | .aborted fault => .aborted fault
      | .failed _ _ => settle bounds start (count + 1) (add value a) s₁
      | .done _ s₂ =>
        if size s₂ < size s then
          readMore size element separator bounds add start (count + 1) (add value a) s₁ s₂
        else .aborted .noProgress
  else settle bounds start count value mark
termination_by size s

/-- Reads a repetition. -/
def readMany (size : σ → Nat) (element : Step σ α) (separator : Step σ Unit) (bounds : Bounds)
    (acc : Accumulator α ρ) : Step σ ρ := fun start =>
  readMore size element separator bounds acc.add start 0 acc.initial start start

/-! ## Steps of the loop -/

section Loop

variable {size : σ → Nat} {element : Step σ α} {separator : Step σ Unit} {bounds : Bounds}
  {add : ρ → α → ρ} {start mark pos next after left : σ} {count : Nat} {value : ρ} {a : α}
  {failure : Failure} {fault : Fault}

theorem readMore_of_full (hFull : ¬ bounds.hasRoom count = true) :
    readMore size element separator bounds add start count value mark pos =
      settle bounds start count value mark := by
  rw [readMore, if_neg hFull]

/-- Where an element fails, a repetition ends, whether there is room for more or not. -/
theorem readMore_of_failed (hElement : element pos = .failed failure left) :
    readMore size element separator bounds add start count value mark pos =
      settle bounds start count value mark := by
  rw [readMore]
  split
  · simp only [hElement]
  · rfl

theorem readMore_of_aborted (hRoom : bounds.hasRoom count = true)
    (hElement : element pos = .aborted fault) :
    readMore size element separator bounds add start count value mark pos = .aborted fault := by
  rw [readMore, if_pos hRoom]
  simp only [hElement]

theorem readMore_of_separator_failed (hRoom : bounds.hasRoom count = true)
    (hElement : element pos = .done a next) (hSeparator : separator next = .failed failure left) :
    readMore size element separator bounds add start count value mark pos =
      settle bounds start (count + 1) (add value a) next := by
  rw [readMore, if_pos hRoom]
  simp only [hElement, hSeparator]

theorem readMore_of_separator_aborted (hRoom : bounds.hasRoom count = true)
    (hElement : element pos = .done a next) (hSeparator : separator next = .aborted fault) :
    readMore size element separator bounds add start count value mark pos = .aborted fault := by
  rw [readMore, if_pos hRoom]
  simp only [hElement, hSeparator]

theorem readMore_of_round (hRoom : bounds.hasRoom count = true)
    (hElement : element pos = .done a next) (hSeparator : separator next = .done () after)
    (hLess : size after < size pos) :
    readMore size element separator bounds add start count value mark pos =
      readMore size element separator bounds add start (count + 1) (add value a) next after := by
  rw [readMore, if_pos hRoom]
  simp only [hElement, hSeparator]
  rw [if_pos hLess]

theorem readMore_of_stall (hRoom : bounds.hasRoom count = true)
    (hElement : element pos = .done a next) (hSeparator : separator next = .done () after)
    (hNotLess : ¬ size after < size pos) :
    readMore size element separator bounds add start count value mark pos =
      .aborted .noProgress := by
  rw [readMore, if_pos hRoom]
  simp only [hElement, hSeparator]
  rw [if_neg hNotLess]

end Loop

end TwoWay
