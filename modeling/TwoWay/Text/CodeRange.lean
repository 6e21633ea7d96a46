/-!
# Ranges of code points

A character property is kept as the ascending list of the closed intervals of code points that
have it.

* `Ranges.contains`: the search ends at the first interval that starts above the code point.
* `Ranges.exists_of_contains`: a code point that is found lies in one of the intervals.
-/

namespace TwoWay.Text

/-- Closed intervals of code points, in ascending order. -/
abbrev Ranges := List (Nat × Nat)

namespace Ranges

/-- Whether a code point lies in one of the intervals. -/
def contains : Ranges → Nat → Bool
  | [], _ => false
  | (least, greatest) :: rest, n => least ≤ n && (n ≤ greatest || contains rest n)

theorem exists_of_contains {ranges : Ranges} {n : Nat} (h : ranges.contains n = true) :
    ∃ range ∈ ranges, range.1 ≤ n ∧ n ≤ range.2 := by
  induction ranges with
  | nil => simp [contains] at h
  | cons range rest ih =>
    simp only [contains, Bool.and_eq_true, Bool.or_eq_true, decide_eq_true_eq] at h
    rcases h with ⟨hLeast, hGreatest | hRest⟩
    · exact ⟨range, List.mem_cons_self, hLeast, hGreatest⟩
    · obtain ⟨found, hMem, hFound⟩ := ih hRest
      exact ⟨found, List.mem_cons_of_mem _ hMem, hFound⟩

end Ranges

end TwoWay.Text
