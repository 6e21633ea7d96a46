/-!
# Accumulators

What a repetition makes of the values of its elements, and how it takes that apart again to write
it. The two need not be inverse to each other: a sum is written as one number.

* `Accumulator.collect_list`: the accumulator of lists collects the values themselves.
* `expand_addToRuns`: a run list grows by the value that is added.
* `mem_insertAscending`: inserting adds one member and nothing else.
-/

namespace TwoWay

/-- Where a collection starts, how a value is added, and which values a collection is written as. -/
structure Accumulator (α ρ : Type) where
  initial : ρ
  add : ρ → α → ρ
  parts : ρ → List α

variable {α ρ : Type}

namespace Accumulator

/-- Collects values in order. -/
def collect (acc : Accumulator α ρ) (values : List α) : ρ := values.foldl acc.add acc.initial

/-- The list of the values. -/
def list : Accumulator α (List α) := ⟨[], fun values value => values ++ [value], id⟩

/-- Starts and adds as told, and is written as nothing. -/
def fold (initial : ρ) (add : ρ → α → ρ) : Accumulator α ρ := ⟨initial, add, fun _ => []⟩

/-- Changes what a collection is written as. -/
def decompose (parts : ρ → List α) (acc : Accumulator α ρ) : Accumulator α ρ :=
  { acc with parts := parts }

theorem collect_concat (acc : Accumulator α ρ) (values : List α) (value : α) :
    acc.collect (values ++ [value]) = acc.add (acc.collect values) value := by
  simp [collect]

theorem collect_list (values : List α) :
    (list : Accumulator α (List α)).collect values = values := by
  have collected (start : List α) : values.foldl list.add start = start ++ values := by
    induction values generalizing start with
    | nil => simp
    | cons value values ih => rw [List.foldl_cons, ih]; simp [list]
  exact collected []

end Accumulator

/-! ## Runs -/

/-- Adds a value to a list of values with counts: to the count of the last one if it is the same
value. -/
def addToRuns [BEq α] : List (α × Nat) → α → List (α × Nat)
  | [], value => [(value, 1)]
  | [(last, count)], value =>
    if last == value then [(last, count + 1)] else [(last, count), (value, 1)]
  | run :: next :: runs, value => run :: addToRuns (next :: runs) value

/-- Repeats each value as often as its count says. -/
def expandRuns (runs : List (α × Nat)) : List α :=
  runs.flatMap fun (value, count) => List.replicate count value

/-- Runs of equal values, with their lengths. -/
def Accumulator.runs [BEq α] : Accumulator α (List (α × Nat)) :=
  ⟨[], addToRuns, expandRuns⟩

theorem expand_addToRuns [BEq α] [LawfulBEq α] (runs : List (α × Nat)) (value : α) :
    expandRuns (addToRuns runs value) = expandRuns runs ++ [value] := by
  fun_induction addToRuns runs value with
  | case1 value => simp [expandRuns]
  | case2 last count value h =>
    have hSame : last = value := eq_of_beq h
    simp [expandRuns, hSame, List.replicate_succ']
  | case3 last count value h => simp [expandRuns]
  | case4 run next runs value ih =>
    simp only [expandRuns, List.flatMap_cons, List.append_assoc] at ih ⊢
    rw [ih]

/-! ## Ascending lists -/

/-- Puts an integer in its place in an ascending list, unless it is there already. -/
def insertAscending : List Int → Int → List Int
  | [], n => [n]
  | m :: members, n =>
    if n < m then n :: m :: members
    else if n = m then m :: members
    else m :: insertAscending members n

/-- The set of the integers, ascending. -/
def Accumulator.ascending : Accumulator Int (List Int) := ⟨[], insertAscending, id⟩

theorem mem_insertAscending {members : List Int} {n m : Int} :
    m ∈ insertAscending members n ↔ m = n ∨ m ∈ members := by
  induction members with
  | nil => simp [insertAscending]
  | cons k members ih =>
    unfold insertAscending
    split
    · simp
    · split
      · rename_i hEq
        subst hEq
        simp
      · simp only [List.mem_cons, ih]
        constructor
        · rintro (h | h | h) <;> simp [h]
        · rintro (h | h | h) <;> simp [h]

end TwoWay
