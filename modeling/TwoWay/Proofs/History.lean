import Mathlib.Data.List.Basic
import Mathlib.Data.List.Induction
import TwoWay.Grammar.History

/-!
# The last setting of each kind

However many settings are made, in whatever order and with copies in between, what is made in the
end depends on the last one of each kind. A setting is refused only if the bounds would then exclude
each other, which again only the last bounds before it decide.

* `Bounds.lastLeast`, `Bounds.lastMost`: the last bounds among changes.
* `Bounds.Refuses`, `Bounds.Accepted`: changes that exclude the last bounds before them.
* `Bounds.changeAll?_eq_ok_iff`, `Bounds.changeAll?_eq_error_iff`: what changes made in order come
  to.
* `History.changes`, `History.lastSeparator`, ...: what a history says about each part.
* `History.make?_eq`: the bounds are the only part that a setting can be refused for.
* `last_settings_decide`: what repetitions and runs are made of in the end.
-/

namespace TwoWay

theorem concat_prefix_concat_iff {α : Type} {front more : List α} {a b : α} :
    front ++ [a] <+: more ++ [b] ↔ (front = more ∧ a = b) ∨ front ++ [a] <+: more := by
  rw [List.prefix_concat_iff, List.append_singleton_inj]

namespace Bounds

/-! ## The last bounds -/

/-- The least count that a change sets. -/
def Change.least? : Change → Option Nat
  | .atLeast count | .exactly count => some count
  | .atMost _ => none

/-- The greatest count that a change sets. -/
def Change.most? : Change → Option Nat
  | .atMost count | .exactly count => some count
  | .atLeast _ => none

/-- The last least count that was set, and zero before one is. -/
def lastLeast (changes : List Change) : Nat := ((changes.filterMap Change.least?).getLast?).getD 0

/-- The last greatest count that was set, if one was. -/
def lastMost (changes : List Change) : Option Nat := (changes.filterMap Change.most?).getLast?

/-- A least count is refused if it is above the last greatest one, and a greatest count if it is
below the last least one. -/
inductive Refuses (changes : List Change) : Change → BoundsConflict → Prop
  | atLeast {count most : Nat} (hMost : lastMost changes = some most) (h : most < count) :
      Refuses changes (.atLeast count) ⟨count, most⟩
  | atMost {count : Nat} (h : count < lastLeast changes) :
      Refuses changes (.atMost count) ⟨lastLeast changes, count⟩

/-- None of the changes is refused after those before it. -/
def Accepted (changes : List Change) : Prop :=
  ∀ before change, before ++ [change] <+: changes → ∀ conflict, ¬ Refuses before change conflict

/-- The bounds are the last that the changes set, and some count meets both. -/
structure IsLastOf (bounds : Bounds) (changes : List Change) : Prop where
  least_eq : bounds.least = lastLeast changes
  most_eq : bounds.most = lastMost changes
  least_le : ∀ most ∈ lastMost changes, lastLeast changes ≤ most

section Changes

variable {bounds changed : Bounds} {changes : List Change} {change : Change}
  {conflict : BoundsConflict}

theorem lastLeast_concat (changes : List Change) (change : Change) :
    lastLeast (changes ++ [change]) = change.least?.getD (lastLeast changes) := by
  cases change <;> simp [lastLeast, Change.least?]

theorem lastMost_concat (changes : List Change) (change : Change) :
    lastMost (changes ++ [change]) = change.most?.or (lastMost changes) := by
  cases change <;> simp [lastMost, Change.most?]

theorem IsLastOf.unique (h : bounds.IsLastOf changes) (h' : changed.IsLastOf changes) :
    bounds = changed :=
  ext (h.least_eq.trans h'.least_eq.symm) (h.most_eq.trans h'.most_eq.symm)

theorem isLastOf_nil : unbounded.IsLastOf [] := ⟨rfl, rfl, nofun⟩

theorem accepted_nil : Accepted [] := by
  intro before change hPrefix
  simp at hPrefix

theorem accepted_concat_iff :
    Accepted (changes ++ [change]) ↔
      Accepted changes ∧ ∀ conflict, ¬ Refuses changes change conflict := by
  constructor
  · intro h
    exact ⟨fun before earlier hPrefix => h before earlier (hPrefix.trans (List.prefix_append _ _)),
      h changes change List.prefix_rfl⟩
  · rintro ⟨hBefore, hLast⟩ before earlier hPrefix
    obtain ⟨rfl, rfl⟩ | hPrefix := concat_prefix_concat_iff.1 hPrefix
    · exact hLast
    · exact hBefore before earlier hPrefix

theorem Accepted.of_prefix {before : List Change} (h : Accepted changes)
    (hPrefix : before <+: changes) : Accepted before :=
  fun _ _ hEarlier => h _ _ (hEarlier.trans hPrefix)

/-! ## Making changes -/

theorem IsLastOf.change?_eq_error_iff (h : bounds.IsLastOf changes) :
    bounds.change? change = .error conflict ↔ Refuses changes change conflict := by
  cases change with
  | atLeast count =>
    rw [Bounds.change?, atLeast?_eq_error_iff, h.most_eq]
    constructor
    · rintro ⟨most, hMost, hLess, rfl⟩
      exact .atLeast hMost hLess
    · intro hRefuses
      cases hRefuses with
      | atLeast hMost hLess => exact ⟨_, hMost, hLess, rfl⟩
  | atMost count =>
    rw [Bounds.change?, atMost?_eq_error_iff, h.least_eq]
    constructor
    · rintro ⟨hLess, rfl⟩
      exact .atMost hLess
    · intro hRefuses
      cases hRefuses with
      | atMost hLess => exact ⟨hLess, rfl⟩
  | exactly count => exact ⟨nofun, nofun⟩

theorem IsLastOf.of_change? (h : bounds.IsLastOf changes)
    (hChanged : bounds.change? change = .ok changed) : changed.IsLastOf (changes ++ [change]) := by
  have hLast : changed.least = lastLeast (changes ++ [change]) ∧
      changed.most = lastMost (changes ++ [change]) := by
    rw [lastLeast_concat, lastMost_concat, ← h.least_eq, ← h.most_eq]
    cases change with
    | atLeast count => exact (atLeast?_eq_ok_iff.1 hChanged).2
    | atMost count => exact (atMost?_eq_ok_iff.1 hChanged).2
    | exactly count =>
      cases hChanged
      exact ⟨rfl, rfl⟩
  refine ⟨hLast.1, hLast.2, ?_⟩
  rw [← hLast.1, ← hLast.2]
  exact changed.least_le

theorem changeAll?_append (bounds : Bounds) (changes more : List Change) :
    bounds.changeAll? (changes ++ more) =
      (bounds.changeAll? changes).bind (Bounds.changeAll? · more) :=
  List.foldlM_append

theorem changeAll?_singleton (bounds : Bounds) (change : Change) :
    bounds.changeAll? [change] = bounds.change? change :=
  List.foldlM_cons.trans (bind_pure _)

theorem changeAll?_concat (bounds : Bounds) (changes : List Change) (change : Change) :
    bounds.changeAll? (changes ++ [change]) =
      (bounds.changeAll? changes).bind (Bounds.change? · change) := by
  simp only [changeAll?_append, changeAll?_singleton]

/-- Changes from no bounds on lead to the last bounds, or to the first change that is refused. -/
theorem changeAll?_cases (changes : List Change) :
    (∃ bounds, unbounded.changeAll? changes = .ok bounds ∧ Accepted changes ∧
      bounds.IsLastOf changes) ∨
    ∃ conflict, unbounded.changeAll? changes = .error conflict ∧
      ∃ before change, before ++ [change] <+: changes ∧ Accepted before ∧
        Refuses before change conflict := by
  induction changes using List.reverseRecOn with
  | nil => exact Or.inl ⟨unbounded, rfl, accepted_nil, isLastOf_nil⟩
  | append_singleton changes change ih =>
    rw [changeAll?_concat]
    rcases ih with ⟨bounds, hBefore, hAccepted, hLast⟩ | ⟨conflict, hBefore, before, earlier,
      hPrefix, hAccepted, hRefuses⟩
    · rw [hBefore]
      cases hChange : bounds.change? change with
      | ok changed =>
        have hNot : ∀ conflict, ¬ Refuses changes change conflict := by
          intro conflict hRefuses
          cases hChange.symm.trans (hLast.change?_eq_error_iff.2 hRefuses)
        exact Or.inl ⟨changed, hChange, accepted_concat_iff.2 ⟨hAccepted, hNot⟩,
          hLast.of_change? hChange⟩
      | error conflict =>
        exact Or.inr ⟨conflict, hChange, changes, change, List.prefix_rfl, hAccepted,
          hLast.change?_eq_error_iff.1 hChange⟩
    · rw [hBefore]
      exact Or.inr ⟨conflict, rfl, before, earlier, hPrefix.trans (List.prefix_append _ _),
        hAccepted, hRefuses⟩

/-- **Changes that are not refused lead to the last bounds.** -/
theorem changeAll?_eq_ok_iff :
    unbounded.changeAll? changes = .ok bounds ↔ Accepted changes ∧ bounds.IsLastOf changes := by
  rcases changeAll?_cases changes with ⟨others, hOk, hAccepted, hLast⟩ | ⟨conflict, hError, before,
    change, hPrefix, -, hRefuses⟩
  · rw [hOk]
    constructor
    · intro h
      cases h
      exact ⟨hAccepted, hLast⟩
    · rintro ⟨-, h⟩
      rw [hLast.unique h]
  · rw [hError]
    exact ⟨nofun, fun h => absurd hRefuses (h.1 before change hPrefix conflict)⟩

/-- **The first change that is refused ends the rest.** -/
theorem changeAll?_eq_error_iff :
    unbounded.changeAll? changes = .error conflict ↔
      ∃ before change, before ++ [change] <+: changes ∧ Accepted before ∧
        Refuses before change conflict := by
  constructor
  · intro h
    rcases changeAll?_cases changes with ⟨bounds, hOk, -⟩ | ⟨other, hError, hFirst⟩
    · cases hOk.symm.trans h
    · cases hError.symm.trans h
      exact hFirst
  · -- the changes before it cannot have been refused, so it is reached, and nothing after it counts
    rintro ⟨before, change, ⟨after, rfl⟩, hAccepted, hRefuses⟩
    rcases changeAll?_cases before with ⟨bounds, hOk, -, hLast⟩ | ⟨other, -, earlier, refused,
      hPrefix, -, hEarlier⟩
    · rw [changeAll?_append, changeAll?_concat, hOk]
      exact congrArg (Except.bind · _) (hLast.change?_eq_error_iff.2 hRefuses)
    · exact absurd hEarlier (hAccepted earlier refused hPrefix other)

theorem Accepted.exists_isLastOf (h : Accepted changes) : ∃ bounds, IsLastOf bounds changes := by
  rcases changeAll?_cases changes with ⟨bounds, -, -, hLast⟩ | ⟨conflict, -, before, change,
    hPrefix, -, hRefuses⟩
  · exact ⟨bounds, hLast⟩
  · exact absurd hRefuses (h before change hPrefix conflict)

end Changes

end Bounds

open Bounds (Accepted IsLastOf Refuses)

theorem except_map_eq_ok_iff {ε α : Type} {β : Type*} {f : α → β} {x : Except ε α} {b : β} :
    x.map f = .ok b ↔ ∃ a, x = .ok a ∧ f a = b := by
  cases x <;> simp [Except.map]

theorem except_map_eq_error_iff {ε α : Type} {β : Type*} {f : α → β} {x : Except ε α} {e : ε} :
    x.map f = .error e ↔ x = .error e := by
  cases x <;> simp [Except.map]

/-! ## Repetitions -/

namespace History

variable {v : View} {α ρ σ : Type}

/-- The changes of the bounds, in order. -/
def changes : {ρ : Type} → History v α ρ → List Bounds.Change
  | _, start => []
  | _, set before (.bound change) => before.changes ++ [change]
  | _, set before (.separatedBy _) => before.changes
  | _, set before (.fold _ _) => before.changes
  | _, set before (.decompose _) => before.changes
  | _, copy before => before.changes

/-- The last separator that was set, and the one that stands for nothing before one is. -/
def lastSeparator : {ρ : Type} → History v α ρ → Grammar v Unit
  | _, start => .always ()
  | _, set before (.bound _) => before.lastSeparator
  | _, set _ (.separatedBy separator) => separator
  | _, set before (.fold _ _) => before.lastSeparator
  | _, set before (.decompose _) => before.lastSeparator
  | _, copy before => before.lastSeparator

/-- The last fold that was set, and the one that makes a list before one is. -/
def lastFold : {ρ : Type} → History v α ρ → ρ × (ρ → α → ρ)
  | _, start => ([], fun values value => values ++ [value])
  | _, set before (.bound _) => before.lastFold
  | _, set before (.separatedBy _) => before.lastFold
  | _, set _ (.fold initial add) => (initial, add)
  | _, set before (.decompose _) => before.lastFold
  | _, copy before => before.lastFold

/-- The last way to take a collection apart that was set after the last fold. Before one is set, the
collection falls into nothing, and into its elements if there was no fold. -/
def lastParts : {ρ : Type} → History v α ρ → ρ → List α
  | _, start => id
  | _, set before (.bound _) => before.lastParts
  | _, set before (.separatedBy _) => before.lastParts
  | _, set _ (.fold _ _) => fun _ => []
  | _, set _ (.decompose parts) => parts
  | _, copy before => before.lastParts

/-- A history is a stage of another: calls may have followed it. -/
inductive Precedes (stage : History v α σ) : {ρ : Type} → History v α ρ → Prop
  | refl : Precedes stage stage
  | set {ρ τ : Type} {before : History v α ρ} (prior : Precedes stage before)
      (setting : Setting v α ρ τ) : Precedes stage (before.set setting)
  | copy {ρ : Type} {before : History v α ρ} (prior : Precedes stage before) :
      Precedes stage before.copy

theorem Precedes.changes_prefix {stage : History v α σ} {history : History v α ρ}
    (h : stage.Precedes history) : stage.changes <+: history.changes := by
  induction h with
  | refl => exact List.prefix_rfl
  | set prior setting ih =>
    cases setting with
    | bound change => exact ih.trans (List.prefix_append _ _)
    | separatedBy | fold | decompose => exact ih
  | copy prior ih => exact ih

/-- Every change was made at a stage. -/
theorem exists_stage {history : History v α ρ} {before : List Bounds.Change}
    {change : Bounds.Change} (h : before ++ [change] <+: history.changes) :
    ∃ (σ : Type) (stage : History v α σ),
      (stage.set (.bound change)).Precedes history ∧ stage.changes = before := by
  induction history with
  | start => simp [changes] at h
  | @set ρ τ earlier setting ih =>
    cases setting with
    | bound last =>
      obtain ⟨rfl, rfl⟩ | hPrefix := concat_prefix_concat_iff.1 h
      · exact ⟨ρ, earlier, .refl, rfl⟩
      · obtain ⟨σ, stage, hStage, hChanges⟩ := ih hPrefix
        exact ⟨σ, stage, hStage.set _, hChanges⟩
    | separatedBy | fold | decompose =>
      obtain ⟨σ, stage, hStage, hChanges⟩ := ih h
      exact ⟨σ, stage, hStage.set _, hChanges⟩
  | copy earlier ih =>
    obtain ⟨σ, stage, hStage, hChanges⟩ := ih h
    exact ⟨σ, stage, hStage.copy, hChanges⟩

/-- The repetition of an element with bounds and with the last settings of the other kinds. -/
def last (history : History v α ρ) (element : Grammar v α) (bounds : Bounds) : Repetition v α ρ :=
  ⟨element, history.lastSeparator, bounds,
    ⟨history.lastFold.1, history.lastFold.2, history.lastParts⟩⟩

/-- The bounds are the only part that a setting can be refused for. -/
theorem make?_eq (element : Grammar v α) (history : History v α ρ) :
    history.make? element =
      (Bounds.unbounded.changeAll? history.changes).map (history.last element) := by
  induction history with
  | start => rfl
  | set before setting ih =>
    rw [make?, ih]
    cases setting with
    | bound change =>
      -- the only setting that can be refused is the last of the changes
      rw [changes, Bounds.changeAll?_concat]
      cases Bounds.unbounded.changeAll? before.changes with
      | error conflict => rfl
      | ok bounds =>
        simp only [Except.map, Except.bind, Repetition.set?, last]
        cases bounds.change? change <;> rfl
    | separatedBy | fold | decompose =>
      rw [changes]
      cases Bounds.unbounded.changeAll? before.changes <;> rfl
  | copy before ih =>
    rw [make?, ih, changes]
    cases Bounds.unbounded.changeAll? before.changes with
    | error conflict => rfl
    | ok bounds => exact congrArg Except.ok (Repetition.copy_eq _)

theorem make?_eq_ok_iff {element : Grammar v α} {history : History v α ρ}
    {made : Repetition v α ρ} :
    history.make? element = .ok made ↔
      ∃ bounds, (Accepted history.changes ∧ IsLastOf bounds history.changes) ∧
        history.last element bounds = made := by
  rw [make?_eq, except_map_eq_ok_iff]
  simp only [Bounds.changeAll?_eq_ok_iff]

theorem make?_eq_error_iff {element : Grammar v α} {history : History v α ρ}
    {conflict : BoundsConflict} :
    history.make? element = .error conflict ↔
      ∃ (σ : Type) (stage : History v α σ) (change : Bounds.Change),
        (stage.set (.bound change)).Precedes history ∧ Accepted stage.changes ∧
          Refuses stage.changes change conflict := by
  rw [make?_eq, except_map_eq_error_iff, Bounds.changeAll?_eq_error_iff]
  constructor
  · rintro ⟨before, change, hPrefix, hAccepted, hRefuses⟩
    obtain ⟨σ, stage, hStage, rfl⟩ := exists_stage hPrefix
    exact ⟨σ, stage, change, hStage, hAccepted, hRefuses⟩
  · rintro ⟨σ, stage, change, hStage, hAccepted, hRefuses⟩
    exact ⟨stage.changes, change, hStage.changes_prefix, hAccepted, hRefuses⟩

end History

/-! ## Runs -/

namespace RunCall

/-- The change of the bounds that a call is, if it is one. -/
def change? : RunCall → Option Bounds.Change
  | .atLeast count => some (.atLeast count)
  | .atMost count => some (.atMost count)
  | .copy => none

/-- The changes of the bounds, in order. -/
def changes (calls : List RunCall) : List Bounds.Change := calls.filterMap change?

theorem changes_append (calls more : List RunCall) :
    changes (calls ++ more) = changes calls ++ changes more := List.filterMap_append

/-- Every change was made by a call. -/
theorem exists_call {calls : List RunCall} {before : List Bounds.Change} {change : Bounds.Change}
    (h : before ++ [change] <+: changes calls) :
    ∃ stage call, stage ++ [call] <+: calls ∧ call.change? = some change ∧
      changes stage = before := by
  induction calls using List.reverseRecOn with
  | nil => simp [changes] at h
  | append_singleton calls call ih =>
    have hEarlier (hPrefix : before ++ [change] <+: changes calls) :
        ∃ stage earlier, stage ++ [earlier] <+: calls ++ [call] ∧
          earlier.change? = some change ∧ changes stage = before := by
      obtain ⟨stage, earlier, hCalls, hChange⟩ := ih hPrefix
      exact ⟨stage, earlier, hCalls.trans (List.prefix_append _ _), hChange⟩
    rw [changes_append] at h
    cases hCall : call.change? with
    | none =>
      simp only [changes, List.filterMap_cons, hCall, List.filterMap_nil, List.append_nil] at h
      exact hEarlier h
    | some last =>
      simp only [changes, List.filterMap_cons, hCall, List.filterMap_nil] at h
      obtain ⟨rfl, rfl⟩ | hPrefix := concat_prefix_concat_iff.1 h
      · exact ⟨calls, call, List.prefix_rfl, hCall, rfl⟩
      · exact hEarlier hPrefix

end RunCall

namespace Run

variable {v : View} {test : Test v} {calls : List RunCall}

theorem call?_eq (run : Run v) (call : RunCall) :
    run.call? call =
      (run.bounds.changeAll? call.change?.toList).map (Run.mk run.test) := by
  cases call with
  | atLeast count =>
    exact congrArg (Except.map _) (run.bounds.changeAll?_singleton (.atLeast count)).symm
  | atMost count =>
    exact congrArg (Except.map _) (run.bounds.changeAll?_singleton (.atMost count)).symm
  | copy => rfl

/-- The bounds are the only part that a call can be refused for. -/
theorem callAll?_eq (run : Run v) (calls : List RunCall) :
    run.callAll? calls =
      (run.bounds.changeAll? (RunCall.changes calls)).map (Run.mk run.test) := by
  induction calls generalizing run with
  | nil => rfl
  | cons call calls ih =>
    have hChanges : RunCall.changes (call :: calls) =
        call.change?.toList ++ RunCall.changes calls := by
      cases hCall : call.change? <;> simp [RunCall.changes, hCall]
    calc run.callAll? (call :: calls) = (run.call? call).bind (callAll? · calls) :=
          List.foldlM_cons
      _ = (run.bounds.changeAll? (RunCall.changes (call :: calls))).map (Run.mk run.test) := by
        rw [call?_eq, hChanges, Bounds.changeAll?_append]
        cases run.bounds.changeAll? call.change?.toList with
        | error conflict => rfl
        | ok bounds => exact ih _

theorem callAll?_eq_ok_iff {made : Run v} :
    (ofTest test).callAll? calls = .ok made ↔
      ∃ bounds, (Accepted (RunCall.changes calls) ∧ IsLastOf bounds (RunCall.changes calls)) ∧
        ⟨test, bounds⟩ = made := by
  rw [callAll?_eq, except_map_eq_ok_iff]
  simp only [ofTest, Bounds.changeAll?_eq_ok_iff]

theorem callAll?_eq_error_iff {conflict : BoundsConflict} :
    (ofTest test).callAll? calls = .error conflict ↔
      ∃ stage call change, stage ++ [call] <+: calls ∧ call.change? = some change ∧
        Accepted (RunCall.changes stage) ∧ Refuses (RunCall.changes stage) change conflict := by
  rw [callAll?_eq, except_map_eq_error_iff, ofTest, Bounds.changeAll?_eq_error_iff]
  constructor
  · rintro ⟨before, change, hPrefix, hAccepted, hRefuses⟩
    obtain ⟨stage, call, hCalls, hChange, rfl⟩ := RunCall.exists_call hPrefix
    exact ⟨stage, call, change, hCalls, hChange, hAccepted, hRefuses⟩
  · rintro ⟨stage, call, change, ⟨more, rfl⟩, hChange, hAccepted, hRefuses⟩
    refine ⟨RunCall.changes stage, change, ⟨RunCall.changes more, ?_⟩, hAccepted, hRefuses⟩
    simp [RunCall.changes, hChange]

end Run

/-! ## What is made in the end -/

/-- **The last setting of each kind decides.**  A history of a repetition is refused exactly at the
first stage after which a least count is set above the last greatest one, or a greatest count below
the last least one, and the refusal names the two. Nothing else is refused, and setting both counts
at once never is. Where nothing is refused, the bounds are the last ones at every stage, and some
count meets them. What is made is the grammar with the last bounds, the last separator, the last
fold and the last way to take a collection apart that was set after it. The same goes for the calls
of a run. -/
theorem last_settings_decide {v : View} {α ρ : Type} (element : Grammar v α)
    (history : History v α ρ) (test : Test v) (calls : List RunCall) :
    ((∀ conflict, history.make? element = .error conflict ↔
        ∃ (σ : Type) (stage : History v α σ) (change : Bounds.Change),
          (stage.set (.bound change)).Precedes history ∧ Accepted stage.changes ∧
            Refuses stage.changes change conflict) ∧
      ∀ made, history.make? element = .ok made →
        (∀ (σ : Type) (stage : History v α σ), stage.Precedes history →
          ∃ repetition, stage.make? element = .ok repetition ∧
            IsLastOf repetition.bounds stage.changes) ∧
        ∃ bounds, IsLastOf bounds history.changes ∧
          made.grammar = .many element history.lastSeparator bounds
            ⟨history.lastFold.1, history.lastFold.2, history.lastParts⟩) ∧
    ((∀ conflict, (Run.ofTest test).callAll? calls = .error conflict ↔
        ∃ stage call change, stage ++ [call] <+: calls ∧ call.change? = some change ∧
          Accepted (RunCall.changes stage) ∧ Refuses (RunCall.changes stage) change conflict) ∧
      ∀ made, (Run.ofTest test).callAll? calls = .ok made →
        (∀ stage, stage <+: calls → ∃ run, (Run.ofTest test).callAll? stage = .ok run ∧
          IsLastOf run.bounds (RunCall.changes stage)) ∧
        ∃ bounds, IsLastOf bounds (RunCall.changes calls) ∧ made.grammar = .run test bounds) := by
  refine ⟨⟨fun conflict => History.make?_eq_error_iff, fun made hMade => ?_⟩,
    ⟨fun conflict => Run.callAll?_eq_error_iff, fun made hMade => ?_⟩⟩
  · obtain ⟨bounds, ⟨hAccepted, hLast⟩, rfl⟩ := History.make?_eq_ok_iff.1 hMade
    refine ⟨fun σ stage hStage => ?_, bounds, hLast, rfl⟩
    have hStageAccepted := hAccepted.of_prefix hStage.changes_prefix
    obtain ⟨earlier, hEarlier⟩ := hStageAccepted.exists_isLastOf
    exact ⟨_, History.make?_eq_ok_iff.2 ⟨earlier, ⟨hStageAccepted, hEarlier⟩, rfl⟩, hEarlier⟩
  · obtain ⟨bounds, ⟨hAccepted, hLast⟩, rfl⟩ := Run.callAll?_eq_ok_iff.1 hMade
    refine ⟨?_, bounds, hLast, rfl⟩
    rintro stage ⟨more, rfl⟩
    have hPrefix : RunCall.changes stage <+: RunCall.changes (stage ++ more) :=
      ⟨RunCall.changes more, (RunCall.changes_append stage more).symm⟩
    have hStageAccepted := hAccepted.of_prefix hPrefix
    obtain ⟨earlier, hEarlier⟩ := hStageAccepted.exists_isLastOf
    exact ⟨_, Run.callAll?_eq_ok_iff.2 ⟨earlier, ⟨hStageAccepted, hEarlier⟩, rfl⟩, hEarlier⟩

/-- Bounds, a separator and a fold that are set between copies, a way to take apart that the fold
ends, and a greatest count below the least one; and a run whose least count is above the greatest
one. -/
theorem last_settings_decide_copied :
    let comma : Grammar .chars Unit := .literal [',']
    let history : History .chars Char Nat :=
      History.start |>.set (.bound (.atMost 5)) |>.set (.decompose List.reverse) |>.copy
        |>.set (.separatedBy comma) |>.set (.fold 0 fun n _ => n + 1)
        |>.set (.decompose fun n => List.replicate n 'a') |>.set (.bound (.exactly 2)) |>.copy
        |>.set (.bound (.atLeast 1))
    let test : Test .chars := fun c => .ok c.isDigit
    (∃ made bounds, history.make? .token = .ok made ∧ bounds.least = 1 ∧ bounds.most = some 2 ∧
      made.grammar =
        .many .token comma bounds ⟨0, fun n _ => n + 1, fun n => List.replicate n 'a'⟩) ∧
    (history.set (.bound (.atMost 0))).make? .token = .error ⟨1, 0⟩ ∧
    (Run.ofTest test).callAll? [.atMost 3, .copy, .atLeast 4] = .error ⟨4, 3⟩ := by
  intro comma history test
  have hChanges : Bounds.unbounded.changeAll? history.changes =
      .ok ⟨1, some 2, fun most hMost => Option.some.inj hMost ▸ by decide⟩ := rfl
  have hAccepted := (Bounds.changeAll?_eq_ok_iff.1 hChanges).1
  have hCalls : Bounds.unbounded.changeAll? (RunCall.changes [.atMost 3, .copy]) =
      .ok ⟨0, some 3, fun most hMost => Option.some.inj hMost ▸ by decide⟩ := rfl
  have hCallsAccepted := (Bounds.changeAll?_eq_ok_iff.1 hCalls).1
  have hMake : ∃ made, history.make? .token = .ok made := ⟨_, rfl⟩
  obtain ⟨made, hMade⟩ := hMake
  obtain ⟨⟨-, hEnd⟩, hRun, -⟩ :=
    last_settings_decide .token history test [.atMost 3, .copy, .atLeast 4]
  obtain ⟨⟨hRefused, -⟩, -⟩ :=
    last_settings_decide .token (history.set (.bound (.atMost 0))) test []
  obtain ⟨-, bounds, hLast, hGrammar⟩ := hEnd made hMade
  refine ⟨⟨made, bounds, hMade, hLast.least_eq, hLast.most_eq, hGrammar⟩, ?_, ?_⟩
  · exact (hRefused _).2 ⟨Nat, history, .atMost 0, .refl, hAccepted, .atMost (by decide)⟩
  · exact (hRun _).2 ⟨[.atMost 3, .copy], .atLeast 4, .atLeast 4, List.prefix_rfl, rfl,
      hCallsAccepted, .atLeast rfl (by decide)⟩

end TwoWay
