/-!
# Bounds on a count

How many tokens a run may have, or how many elements a repetition: a least number and, unless the
count is open above, a greatest one.

* `Bounds.atLeast?_eq_ok_iff`, `Bounds.atMost?_eq_ok_iff`: a bound can be set exactly when it leaves
  a count that meets both.
* `Bounds.atLeast?_eq_error_iff`, `Bounds.atMost?_eq_error_iff`: otherwise the two are told.
-/

namespace TwoWay

/-- A least count and, if there is a limit, a greatest one that is not below it. -/
structure Bounds where
  least : Nat
  most : Option Nat
  least_le : ∀ limit ∈ most, least ≤ limit

/-- Two bounds that no count meets. -/
structure BoundsConflict where
  least : Nat
  most : Nat
  deriving DecidableEq, Repr

namespace BoundsConflict

/-- The text that refuses the bounds of a run. -/
def runMessage (_ : BoundsConflict) : String := "take_while requires at_least <= at_most"

/-- The text that refuses the bounds of a repetition. -/
def repetitionMessage (conflict : BoundsConflict) : String :=
  "`Many` requires at_least (" ++ toString conflict.least ++ ") <= at_most (" ++
    toString conflict.most ++ ")"

end BoundsConflict

namespace Bounds

/-- Any count from a least one on. -/
def orMore (least : Nat) : Bounds := ⟨least, none, by simp⟩

/-- Any count. -/
def unbounded : Bounds := orMore 0

/-- Whether a count is not above the bounds. -/
def isWithin (bounds : Bounds) (count : Nat) : Bool := bounds.most.all (count ≤ ·)

/-- Whether one more can be counted. -/
def hasRoom (bounds : Bounds) (count : Nat) : Bool := bounds.most.all (count < ·)

/-- Whether a count meets the bounds. -/
def allows (bounds : Bounds) (count : Nat) : Bool := bounds.least ≤ count && bounds.isWithin count

/-- Changes the least count. -/
def atLeast? (least : Nat) (bounds : Bounds) : Except BoundsConflict Bounds :=
  match bounds.most with
  | none => .ok (orMore least)
  | some most =>
    if h : least ≤ most then .ok ⟨least, some most, fun _ hMost => Option.some.inj hMost ▸ h⟩
    else .error ⟨least, most⟩

/-- Changes the greatest count. -/
def atMost? (most : Nat) (bounds : Bounds) : Except BoundsConflict Bounds :=
  if h : bounds.least ≤ most then
    .ok ⟨bounds.least, some most, fun _ hMost => Option.some.inj hMost ▸ h⟩
  else .error ⟨bounds.least, most⟩

/-- Exactly one count. -/
def exactly (count : Nat) : Bounds :=
  ⟨count, some count, fun _ h => Option.some.inj h ▸ Nat.le_refl _⟩

/-- A change of the bounds. -/
inductive Change where
  | atLeast (count : Nat)
  | atMost (count : Nat)
  | exactly (count : Nat)
  deriving DecidableEq, Repr

/-- Makes a change. Setting both bounds at once needs no regard to the old ones. -/
def change? (bounds : Bounds) : Change → Except BoundsConflict Bounds
  | .atLeast count => bounds.atLeast? count
  | .atMost count => bounds.atMost? count
  | .exactly count => .ok (exactly count)

/-- Makes changes in order, up to the first that cannot be made. -/
def changeAll? (bounds : Bounds) (changes : List Change) : Except BoundsConflict Bounds :=
  changes.foldlM change? bounds

/-! ## Counts and bounds -/

theorem isWithin_iff {bounds : Bounds} {count : Nat} :
    bounds.isWithin count = true ↔ ∀ most ∈ bounds.most, count ≤ most := by
  unfold isWithin
  cases bounds.most <;> simp

theorem hasRoom_iff {bounds : Bounds} {count : Nat} :
    bounds.hasRoom count = true ↔ ∀ most ∈ bounds.most, count < most := by
  unfold hasRoom
  cases bounds.most <;> simp

theorem allows_iff {bounds : Bounds} {count : Nat} :
    bounds.allows count = true ↔ bounds.least ≤ count ∧ bounds.isWithin count = true := by
  simp [allows]

theorem isWithin_zero (bounds : Bounds) : bounds.isWithin 0 = true :=
  isWithin_iff.2 fun most _ => Nat.zero_le most

theorem isWithin_succ {bounds : Bounds} {count : Nat} :
    bounds.isWithin (count + 1) = bounds.hasRoom count := rfl

theorem isWithin_mono {bounds : Bounds} {m n : Nat} (hLe : m ≤ n)
    (h : bounds.isWithin n = true) : bounds.isWithin m = true :=
  isWithin_iff.2 fun most hMost => Nat.le_trans hLe (isWithin_iff.1 h most hMost)

theorem isWithin_of_hasRoom {bounds : Bounds} {count : Nat} (h : bounds.hasRoom count = true) :
    bounds.isWithin count = true :=
  isWithin_mono (Nat.le_succ count) (isWithin_succ.trans h)

/-- A count that is not above the bounds and leaves no room is the greatest one. -/
theorem most_eq_of_not_hasRoom {bounds : Bounds} {count : Nat}
    (hWithin : bounds.isWithin count = true) (hFull : ¬ bounds.hasRoom count = true) :
    bounds.most = some count := by
  rw [isWithin_iff] at hWithin
  rw [hasRoom_iff] at hFull
  cases hMost : bounds.most with
  | none => simp [hMost] at hFull
  | some most =>
    simp only [hMost, Option.mem_some_iff, forall_eq'] at hWithin hFull
    rw [show most = count by omega]

/-! ## Changes -/

theorem ext {b c : Bounds} (hLeast : b.least = c.least) (hMost : b.most = c.most) : b = c := by
  cases b
  cases c
  cases hLeast
  cases hMost
  rfl

theorem atLeast?_eq_ok_iff {bounds changed : Bounds} {least : Nat} :
    bounds.atLeast? least = .ok changed ↔
      (∀ most ∈ bounds.most, least ≤ most) ∧ changed.least = least ∧
        changed.most = bounds.most := by
  unfold atLeast?
  constructor
  · intro h
    split at h
    · rename_i hMost
      cases h
      exact ⟨by simp [hMost], rfl, hMost.symm⟩
    · rename_i most hMost
      split at h
      · rename_i hLe
        cases h
        exact ⟨by simp [hMost, hLe], rfl, hMost.symm⟩
      · cases h
  · rintro ⟨hLe, hLeast, hMost⟩
    split
    · rename_i hNone
      exact congrArg Except.ok (ext hLeast.symm (by rw [hMost, hNone]; rfl))
    · rename_i most hSome
      rw [dif_pos (hLe most hSome)]
      exact congrArg Except.ok (ext hLeast.symm (by rw [hMost, hSome]))

theorem atMost?_eq_ok_iff {bounds changed : Bounds} {most : Nat} :
    bounds.atMost? most = .ok changed ↔
      bounds.least ≤ most ∧ changed.least = bounds.least ∧ changed.most = some most := by
  unfold atMost?
  constructor
  · intro h
    split at h
    · rename_i hLe
      cases h
      exact ⟨hLe, rfl, rfl⟩
    · cases h
  · rintro ⟨hLe, hLeast, hMost⟩
    rw [dif_pos hLe]
    exact congrArg Except.ok (ext hLeast.symm hMost.symm)

theorem atLeast?_eq_error_iff {bounds : Bounds} {least : Nat} {conflict : BoundsConflict} :
    bounds.atLeast? least = .error conflict ↔
      ∃ most, bounds.most = some most ∧ most < least ∧ conflict = ⟨least, most⟩ := by
  unfold atLeast?
  constructor
  · intro h
    split at h
    · cases h
    · rename_i most hMost
      split at h
      · cases h
      · rename_i hLess
        cases h
        exact ⟨most, hMost, Nat.lt_of_not_le hLess, rfl⟩
  · rintro ⟨most, hMost, hLess, rfl⟩
    split
    · rename_i hNone
      cases hNone.symm.trans hMost
    · rename_i limit hLimit
      obtain rfl := Option.some.inj (hLimit.symm.trans hMost)
      rw [dif_neg (Nat.not_le_of_lt hLess)]

theorem atMost?_eq_error_iff {bounds : Bounds} {most : Nat} {conflict : BoundsConflict} :
    bounds.atMost? most = .error conflict ↔
      most < bounds.least ∧ conflict = ⟨bounds.least, most⟩ := by
  unfold atMost?
  constructor
  · intro h
    split at h
    · cases h
    · rename_i hLess
      cases h
      exact ⟨Nat.lt_of_not_le hLess, rfl⟩
  · rintro ⟨hLess, rfl⟩
    rw [dif_neg (Nat.not_le_of_lt hLess)]

end Bounds

end TwoWay
