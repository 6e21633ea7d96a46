/-!
# What a list opens with

* `afterOpening?_eq_some_iff`: taking one list off the front of another succeeds exactly when the
  other is the first with something after it, and gives what is after it.
-/

namespace TwoWay.Text

/-- What is left of a list when another is taken off its front. -/
def afterOpening? {α : Type} [BEq α] : (opening list : List α) → Option (List α)
  | [], list => some list
  | _ :: _, [] => none
  | a :: opening, b :: list => if a == b then afterOpening? opening list else none

theorem afterOpening?_eq_some_iff {α : Type} [BEq α] [LawfulBEq α] {opening list rest : List α} :
    afterOpening? opening list = some rest ↔ list = opening ++ rest := by
  induction opening generalizing list with
  | nil => simp [afterOpening?]
  | cons a opening ih =>
    cases list with
    | nil => simp [afterOpening?]
    | cons b list =>
      by_cases hab : a = b
      · simp [afterOpening?, hab, ih]
      · have : ¬ b = a := fun h => hab h.symm
        simp [afterOpening?, hab, this]

end TwoWay.Text
