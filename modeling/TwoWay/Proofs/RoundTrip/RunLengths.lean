import Mathlib.Data.List.Chain
import TwoWay.Format.Collections
import TwoWay.Proofs.RoundTrip.Form

/-!
# Run lengths

Bytes are collected in runs of equal ones, one byte at a time: it makes the last run longer, or
starts a run of its own. What has been collected so far is therefore always the one list of runs
without empty ones, without equal neighbours, and with the bytes so far as its expansion. Any other
list of runs is written as its expansion too, and comes back without its empty runs and with equal
neighbours joined.

* `IsRunList`: no run is empty, and neighbours differ.
* `addToRuns_concat`: only the last run is looked at.
* `isRunList_collect`, `collect_expandRuns`: bytes and such lists are the same thing.
* `normalizeRuns`: the list without empty runs and with equal neighbours joined.
* `Format.runLengths_canonical`: what is read and written.
-/

namespace TwoWay

variable {α : Type}

/-! ## Lists of runs -/

/-- No run is empty, and neighbours have different values. -/
structure IsRunList (runs : List (α × Nat)) : Prop where
  positive : ∀ run ∈ runs, 1 ≤ run.2
  differ : runs.IsChain fun run next => run.1 ≠ next.1

theorem isRunList_nil : IsRunList ([] : List (α × Nat)) := ⟨List.forall_mem_nil _, .nil⟩

theorem isRunList_concat_iff {front : List (α × Nat)} {a : α} {n : Nat} :
    IsRunList (front ++ [(a, n)]) ↔
      IsRunList front ∧ 1 ≤ n ∧ ∀ run ∈ front.getLast?, run.1 ≠ a := by
  constructor
  · rintro ⟨hPositive, hDiffer⟩
    obtain ⟨hFront, hLast⟩ := List.forall_mem_append.1 hPositive
    obtain ⟨hChain, -, hEnd⟩ := List.isChain_append.1 hDiffer
    exact ⟨⟨hFront, hChain⟩, hLast _ (List.mem_singleton_self _),
      fun run hRun => hEnd run hRun _ rfl⟩
  · rintro ⟨⟨hFront, hChain⟩, hLast, hEnd⟩
    refine ⟨List.forall_mem_append.2 ⟨hFront, fun run hRun => ?_⟩,
      List.isChain_append.2 ⟨hChain, .singleton _, fun run hRun next hNext => ?_⟩⟩
    · rwa [List.mem_singleton.1 hRun]
    · cases hNext
      exact hEnd run hRun

theorem isRunList_cons_iff {a : α} {n : Nat} {runs : List (α × Nat)} :
    IsRunList ((a, n) :: runs) ↔
      1 ≤ n ∧ (∀ next ∈ runs.head?, a ≠ next.1) ∧ IsRunList runs := by
  constructor
  · rintro ⟨hPositive, hDiffer⟩
    obtain ⟨hFirst, hMore⟩ := List.forall_mem_cons.1 hPositive
    obtain ⟨hNext, hChain⟩ := List.isChain_cons.1 hDiffer
    exact ⟨hFirst, hNext, hMore, hChain⟩
  · rintro ⟨hFirst, hNext, hMore, hChain⟩
    exact ⟨List.forall_mem_cons.2 ⟨hFirst, hMore⟩, List.isChain_cons.2 ⟨hNext, hChain⟩⟩

theorem expandRuns_cons (a : α) (n : Nat) (runs : List (α × Nat)) :
    expandRuns ((a, n) :: runs) = List.replicate n a ++ expandRuns runs :=
  List.flatMap_cons

theorem expandRuns_concat (front : List (α × Nat)) (a : α) (n : Nat) :
    expandRuns (front ++ [(a, n)]) = expandRuns front ++ List.replicate n a := by
  simp [expandRuns]

/-! ## Adding a value -/

section Adding

variable [BEq α] [LawfulBEq α]

omit [LawfulBEq α] in
/-- Of a list of runs, only the last one is looked at. -/
theorem addToRuns_concat (front : List (α × Nat)) (last value : α) (count : Nat) :
    addToRuns (front ++ [(last, count)]) value =
      if last == value then front ++ [(last, count + 1)]
      else front ++ [(last, count), (value, 1)] := by
  induction front with
  | nil => rfl
  | cons run front ih =>
    cases hMore : front ++ [(last, count)] with
    | nil => simp at hMore
    | cons next runs =>
      rw [List.cons_append, hMore, addToRuns, ← hMore, ih]
      split <;> rfl

theorem addToRuns_of_ne {runs : List (α × Nat)} {value : α}
    (h : ∀ run ∈ runs.getLast?, run.1 ≠ value) : addToRuns runs value = runs ++ [(value, 1)] := by
  rcases runs.eq_nil_or_concat' with rfl | ⟨front, ⟨last, count⟩, rfl⟩
  · rfl
  · have hNe : last ≠ value := h (last, count) (by simp)
    rw [addToRuns_concat, if_neg (by simpa using hNe), List.append_assoc]
    rfl

/-- A value that is added several times in a row makes one run. -/
theorem foldl_addToRuns_replicate {front : List (α × Nat)} {value : α}
    (h : ∀ run ∈ front.getLast?, run.1 ≠ value) (n : Nat) :
    (List.replicate (n + 1) value).foldl addToRuns front = front ++ [(value, n + 1)] := by
  induction n with
  | zero => exact addToRuns_of_ne h
  | succ n ih =>
    rw [List.replicate_succ', List.foldl_append, ih, List.foldl_cons, addToRuns_concat,
      if_pos (beq_self_eq_true value)]
    rfl

theorem IsRunList.addToRuns {runs : List (α × Nat)} (h : IsRunList runs) (value : α) :
    IsRunList (addToRuns runs value) := by
  rcases runs.eq_nil_or_concat' with rfl | ⟨front, ⟨last, count⟩, rfl⟩
  · exact isRunList_concat_iff.2 ⟨isRunList_nil, Nat.le_refl 1, by simp⟩
  · rw [addToRuns_concat]
    split
    · obtain ⟨hFront, -, hEnd⟩ := isRunList_concat_iff.1 h
      exact isRunList_concat_iff.2 ⟨hFront, Nat.le_add_left 1 count, hEnd⟩
    · rename_i hNe
      have hLast : ∀ run ∈ (front ++ [(last, count)]).getLast?, run.1 ≠ value := by
        simpa using hNe
      rw [List.append_cons]
      exact isRunList_concat_iff.2 ⟨h, Nat.le_refl 1, hLast⟩

/-! ## Collecting -/

theorem isRunList_collect (values : List α) :
    IsRunList ((Accumulator.runs : Accumulator α _).collect values) := by
  induction values using List.reverseRecOn with
  | nil => exact isRunList_nil
  | append_singleton values value ih =>
    rw [Accumulator.collect_concat]
    exact ih.addToRuns value

theorem expandRuns_collect (values : List α) :
    expandRuns ((Accumulator.runs : Accumulator α _).collect values) = values := by
  induction values using List.reverseRecOn with
  | nil => rfl
  | append_singleton values value ih =>
    rw [Accumulator.collect_concat]
    exact (expand_addToRuns _ value).trans (by rw [ih])

/-- **A list of runs is collected from its expansion.** -/
theorem collect_expandRuns {runs : List (α × Nat)} (h : IsRunList runs) :
    (Accumulator.runs : Accumulator α _).collect (expandRuns runs) = runs := by
  induction runs using List.reverseRecOn with
  | nil => rfl
  | append_singleton front run ih =>
    obtain ⟨value, count⟩ := run
    obtain ⟨hFront, hCount, hEnd⟩ := isRunList_concat_iff.1 h
    obtain ⟨n, rfl⟩ := Nat.exists_eq_add_of_le' hCount
    have hBefore : (expandRuns front).foldl addToRuns [] = front := ih hFront
    calc (expandRuns (front ++ [(value, n + 1)])).foldl addToRuns []
        = (List.replicate (n + 1) value).foldl addToRuns front := by
          rw [expandRuns_concat, List.foldl_append, hBefore]
      _ = front ++ [(value, n + 1)] := foldl_addToRuns_replicate hEnd n

/-- There is one list of runs with a given expansion, and it is the one that is collected. -/
theorem isRunList_and_expandRuns_eq_iff {runs : List (α × Nat)} {values : List α} :
    IsRunList runs ∧ expandRuns runs = values ↔
      runs = (Accumulator.runs : Accumulator α _).collect values := by
  constructor
  · rintro ⟨hRuns, rfl⟩
    exact (collect_expandRuns hRuns).symm
  · rintro rfl
    exact ⟨isRunList_collect values, expandRuns_collect values⟩

/-! ## Normalizing -/

/-- Puts a run in front of others, and joins it with the next if that has the same value. -/
def joinRun (value : α) (count : Nat) : List (α × Nat) → List (α × Nat)
  | [] => [(value, count)]
  | (next, more) :: runs =>
    if value == next then (value, count + more) :: runs else (value, count) :: (next, more) :: runs

/-- Leaves out empty runs and joins neighbours with the same value. -/
def normalizeRuns : List (α × Nat) → List (α × Nat)
  | [] => []
  | (value, count) :: runs =>
    if count = 0 then normalizeRuns runs else joinRun value count (normalizeRuns runs)

theorem IsRunList.joinRun {runs : List (α × Nat)} (h : IsRunList runs) (value : α) {count : Nat}
    (hCount : 1 ≤ count) : IsRunList (joinRun value count runs) := by
  cases runs with
  | nil => exact isRunList_cons_iff.2 ⟨hCount, by simp, h⟩
  | cons run runs =>
    obtain ⟨next, more⟩ := run
    obtain ⟨-, hNext, hRuns⟩ := isRunList_cons_iff.1 h
    rw [TwoWay.joinRun]
    split
    · rename_i hSame
      exact isRunList_cons_iff.2 ⟨Nat.le_add_right_of_le hCount, eq_of_beq hSame ▸ hNext, hRuns⟩
    · rename_i hNe
      exact isRunList_cons_iff.2 ⟨hCount, by simpa using hNe, h⟩

theorem expandRuns_joinRun (value : α) (count : Nat) (runs : List (α × Nat)) :
    expandRuns (joinRun value count runs) = List.replicate count value ++ expandRuns runs := by
  cases runs with
  | nil => exact expandRuns_cons value count []
  | cons run runs =>
    obtain ⟨next, more⟩ := run
    rw [joinRun]
    split
    · rename_i hSame
      rw [← eq_of_beq hSame, expandRuns_cons, expandRuns_cons, ← List.append_assoc,
        List.replicate_append_replicate]
    · exact expandRuns_cons value count _

theorem isRunList_normalizeRuns (runs : List (α × Nat)) : IsRunList (normalizeRuns runs) := by
  induction runs with
  | nil => exact isRunList_nil
  | cons run runs ih =>
    rw [normalizeRuns]
    split
    · exact ih
    · exact ih.joinRun run.1 (by omega)

theorem expandRuns_normalizeRuns (runs : List (α × Nat)) :
    expandRuns (normalizeRuns runs) = expandRuns runs := by
  induction runs with
  | nil => rfl
  | cons run runs ih =>
    obtain ⟨value, count⟩ := run
    rw [normalizeRuns, expandRuns_cons]
    split
    · rename_i hNone
      rw [hNone, ih]
      rfl
    · rw [expandRuns_joinRun, ih]

/-- Collecting the expansion of runs normalizes them. -/
theorem collect_eq_normalizeRuns (runs : List (α × Nat)) :
    (Accumulator.runs : Accumulator α _).collect (expandRuns runs) = normalizeRuns runs :=
  (isRunList_and_expandRuns_eq_iff.1
    ⟨isRunList_normalizeRuns runs, expandRuns_normalizeRuns runs⟩).symm

end Adding

/-! ## The format -/

namespace Format

open Grammar (HasForm)

/-- Bytes, at least one, are read and written as they are. -/
theorem hasForm_bytes :
    (Grammar.many .token (.always ()) (.orMore 1) .list : Grammar .bytes (List UInt8)).HasForm
      (fun bytes => bytes ≠ []) id (· = []) := by
  have hToken := Grammar.hasForm_token (v := .bytes) rfl
  have hEnds : ∀ rest : List UInt8, rest = [] → True ∧ ∃ failure left,
      (Grammar.token : Grammar .bytes UInt8).parse rest = .failed failure left := by
    rintro _ rfl
    exact ⟨trivial, .parse, [], rfl⟩
  have hBytes : (Grammar.many .token (.always ()) (.orMore 1) .list :
      Grammar .bytes (List UInt8)).HasForm _ _ (· = []) :=
    hToken.repeated rfl rfl (fun _ _ _ => trivial) hEnds
  exact hBytes.imp (fun bytes hSome => ⟨List.length_pos_iff.2 hSome, fun _ _ => trivial⟩)
    fun bytes _ => textOf_bytes bytes

/-- **Run lengths lose nothing and are normal.**  Every byte string that is not empty is read as the
one list of runs without empty runs and equal neighbours that expands to it, and that list is
written as the byte string. Any list of runs with an expansion is written as its expansion, and read
back from it normalized. The empty string is not read, and runs without an expansion are not
written. -/
theorem runLengths_canonical :
    (∀ bytes : List UInt8, bytes ≠ [] →
      ∃ runs, runLengths.parseAll bytes = .done runs [] ∧
        (∀ others, IsRunList others ∧ expandRuns others = bytes ↔ others = runs) ∧
        runLengths.printToBuffer runs = .done () bytes) ∧
    (∀ runs : List (UInt8 × Nat), expandRuns runs ≠ [] →
      runLengths.printToBuffer runs = .done () (expandRuns runs) ∧
        runLengths.parseAll (expandRuns runs) = .done (normalizeRuns runs) [] ∧
        IsRunList (normalizeRuns runs) ∧ expandRuns (normalizeRuns runs) = expandRuns runs) ∧
    runLengths.parseAll [] = .failed .parse [] ∧
    ∀ runs : List (UInt8 × Nat), expandRuns runs = [] →
      runLengths.printToBuffer runs = .failed .print [] := by
  refine ⟨fun bytes hSome => ?_, fun runs hSome => ?_, ?_, fun runs hNone => ?_⟩
  · have hExpand := expandRuns_collect bytes
    refine ⟨_, hasForm_bytes.collected_parseAll .runs rfl hSome,
      fun others => isRunList_and_expandRuns_eq_iff, ?_⟩
    have hWritten := hasForm_bytes.collected_written .runs (hExpand ▸ hSome)
    exact hWritten.trans (congrArg (Outcome.done ()) hExpand)
  · refine ⟨hasForm_bytes.collected_written .runs hSome, ?_, isRunList_normalizeRuns runs,
      expandRuns_normalizeRuns runs⟩
    rw [← collect_eq_normalizeRuns]
    exact hasForm_bytes.collected_parseAll .runs rfl hSome
  · decide +kernel
  · let repetition : Repetition .bytes UInt8 (List (UInt8 × Nat)) :=
      ⟨.token, .always (), .orMore 1, .runs⟩
    have hParts : repetition.acc.parts runs = [] := hNone
    exact Repetition.print_of_parts_nil hParts []

/-- An empty run and equal neighbours go away. -/
theorem runLengths_canonical_joined :
    let runs : List (UInt8 × Nat) := [(0x61, 2), (0x62, 0), (0x61, 1), (0x63, 1)]
    expandRuns runs ≠ [] ∧ runLengths.printToBuffer runs = .done () [0x61, 0x61, 0x61, 0x63] ∧
      runLengths.parseAll [0x61, 0x61, 0x61, 0x63] = .done [(0x61, 3), (0x63, 1)] [] := by
  intro runs
  have hSome : expandRuns runs ≠ [] := by decide
  obtain ⟨hWritten, hRead, -⟩ := runLengths_canonical.2.1 runs hSome
  exact ⟨hSome, hWritten, hRead⟩

end Format

end TwoWay
