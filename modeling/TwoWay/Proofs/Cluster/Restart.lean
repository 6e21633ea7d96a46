import TwoWay.Cluster.Boundary

/-!
# Starting over at a boundary

Whether a scalar goes on with a cluster depends on the scalars before it, for some rules as far back
as the text starts. A reading sees what is left of a text and nothing before it. This file says that
nothing is lost if it starts over at a boundary: from there on, the boundaries are where they were.

A rule that looks far back looks through scalars of one kind: through extenders and joiners for the
conjuncts and the joined pictographs, through regional indicators for the flags. No boundary lies
before an extender or a joiner, unless a line end or a control stands there, and those are no
consonants and no pictographs. Before a regional indicator a boundary lies only where their number
is even, and then they may as well be forgotten.

* `joins_append`: what stands before a boundary does not matter to the rules.
* `isBoundary_append`: so the boundaries behind one are those of what is left.
* `clusters_append`: the clusters of a text are those of its parts on both sides of a boundary.
* `segments_eq_clusters`: reading a cluster after the other, each time from what is left only, gives
  the parts of the text between its boundaries.
* `isBoundary_iff_exists_take`: the boundaries of a text are the places after some of its clusters.
-/

namespace TwoWay

/-- A code point in one of some intervals is in none of others that do not meet them. -/
theorem Text.Ranges.contains_eq_false_of_disjoint {ranges others : Ranges} {n : Nat}
    (hDisjoint : ∀ range ∈ ranges, ∀ other ∈ others, range.2 < other.1 ∨ other.2 < range.1)
    (hOther : ∃ other ∈ others, other.1 ≤ n ∧ n ≤ other.2) : ranges.contains n = false := by
  refine Bool.eq_false_iff.2 fun hContains => ?_
  obtain ⟨range, hRange, hIn⟩ := exists_of_contains hContains
  obtain ⟨other, hMem, hIn'⟩ := hOther
  have := hDisjoint range hRange other hMem
  omega

namespace Cluster

/-! ## Line ends and controls -/

/-- The classes of the line ends and the controls: nothing but a line feed goes on after them. -/
def BreakClass.isControl : BreakClass → Bool
  | .carriageReturn | .lineFeed | .control => true
  | _ => false

/-- The code points of the line ends and the controls. -/
def controls : Text.Ranges := (0x0A, 0x0A) :: (0x0D, 0x0D) :: control

section Controls

variable {c : Char} (h : (breakClass c).isControl = true)
include h

theorem exists_mem_controls : ∃ range ∈ controls, range.1 ≤ c.toNat ∧ c.toNat ≤ range.2 := by
  unfold breakClass at h
  simp only [apply_ite BreakClass.isControl] at h
  simp only [BreakClass.isControl, ite_self] at h
  have hCases : c.toNat = 0x0D ∨ c.toNat = 0x0A ∨ control.contains c.toNat = true := by
    split at h
    · exact Or.inl ‹_›
    · split at h
      · exact Or.inr (Or.inl ‹_›)
      · split at h
        · cases h
        · exact Or.inr (Or.inr (by simpa using h))
  rcases hCases with hReturn | hFeed | hControl
  · exact ⟨(0x0D, 0x0D), by decide, Nat.le_of_eq hReturn.symm, Nat.le_of_eq hReturn⟩
  · exact ⟨(0x0A, 0x0A), by decide, Nat.le_of_eq hFeed.symm, Nat.le_of_eq hFeed⟩
  · obtain ⟨range, hMem, hIn⟩ := Text.Ranges.exists_of_contains hControl
    exact ⟨range, List.mem_cons_of_mem _ (List.mem_cons_of_mem _ hMem), hIn⟩

theorem isConsonant_of_isControl : isConsonant c = false :=
  Text.Ranges.contains_eq_false_of_disjoint (by decide +kernel) (exists_mem_controls h)

theorem isPictograph_of_isControl : isPictograph c = false :=
  Text.Ranges.contains_eq_false_of_disjoint (by decide +kernel) (exists_mem_controls h)

theorem breakClass_ne_extend : breakClass c ≠ .extend := fun hExtend => by
  rw [hExtend] at h
  cases h

theorem breakClass_ne_joiner : breakClass c ≠ .joiner := fun hJoiner => by
  rw [hJoiner] at h
  cases h

end Controls

/-! ## Extenders and joiners -/

/-- The classes that every scalar but a line end and a control ties to itself. -/
def BreakClass.IsExtender (breakClass : BreakClass) : Prop :=
  breakClass = .extend ∨ breakClass = .joiner

theorem isExtender_of_isLinker {c : Char} (h : isLinker c = true) : (breakClass c).IsExtender := by
  have hMem : c.toNat ∈ linkers := List.contains_iff_mem.1 h
  have hAll : ∀ n ∈ linkers, breakClass (Char.ofNat n) = .extend := by decide +kernel
  rw [← Char.ofNat_toNat c]
  exact Or.inl (hAll _ hMem)

theorem isExtender_of_isConjunctExtender {c : Char} (h : isConjunctExtender c = true) :
    (breakClass c).IsExtender := by
  simp only [isConjunctExtender, Bool.and_eq_true, Bool.or_eq_true, beq_iff_eq] at h
  exact h.1.1

theorem not_isExtender_of_isControl {c : Char} (h : (breakClass c).isControl = true) :
    ¬ (breakClass c).IsExtender :=
  not_or.2 ⟨breakClass_ne_extend h, breakClass_ne_joiner h⟩

theorem neighboursJoin_of_not_joins {b c : Char} {far : List Char}
    (h : joins (b :: far) c = false) : neighboursJoin (breakClass b) (breakClass c) = false := by
  simp only [joins, Bool.or_eq_false_iff] at h
  exact h.1.1.1

/-- No boundary lies between a scalar and an extender or a joiner, unless the scalar is a line end
or a control. -/
theorem isControl_of_not_joins {b c : Char} {far : List Char}
    (hExtender : (breakClass c).IsExtender) (h : joins (b :: far) c = false) :
    (breakClass b).isControl = true := by
  have hApart := neighboursJoin_of_not_joins h
  rcases hExtender with hExtend | hJoiner
  · rw [hExtend] at hApart
    revert hApart
    cases breakClass b <;> decide
  · rw [hJoiner] at hApart
    revert hApart
    cases breakClass b <;> decide

/-! ## What stands before a boundary -/

section Boundary

/-! A boundary lies between `far`, nearest first, and `c`. Then come the scalars of `near`, again
nearest first, up to the position that the rules look back from. -/

variable {far : List Char} {c : Char} (hBoundary : joins far c = false)
include hBoundary

theorem endsInLinkedConsonant_of_boundary (hExtender : (breakClass c).IsExtender) (linked : Bool) :
    endsInLinkedConsonant linked far = false := by
  cases far with
  | nil => rfl
  | cons b far =>
    have hControl := isControl_of_not_joins hExtender hBoundary
    have hNot := not_isExtender_of_isControl hControl
    rw [endsInLinkedConsonant, if_neg fun h => hNot (isExtender_of_isLinker h),
      if_neg fun h => hNot (isExtender_of_isConjunctExtender h), isConsonant_of_isControl hControl,
      Bool.and_false]

theorem endsInLinkedConsonant_append (linked : Bool) (near : List Char) :
    endsInLinkedConsonant linked (near ++ c :: far) =
      endsInLinkedConsonant linked (near ++ [c]) := by
  induction near generalizing linked with
  | nil =>
    have hFar (linked : Bool) (hExtender : (breakClass c).IsExtender) :
        endsInLinkedConsonant linked far = endsInLinkedConsonant linked [] :=
      endsInLinkedConsonant_of_boundary hBoundary hExtender linked
    simp only [List.nil_append, endsInLinkedConsonant]
    split
    · exact hFar true (isExtender_of_isLinker ‹_›)
    · split
      · exact hFar linked (isExtender_of_isConjunctExtender ‹_›)
      · rfl
  | cons b near ih => simp only [List.cons_append, endsInLinkedConsonant, ih]

/-- Whether the extenders nearest to a position follow a pictograph. -/
theorem any_isPictograph_append (near : List Char) :
    ((near ++ c :: far).dropWhile fun d => breakClass d == .extend).head?.any isPictograph =
      ((near ++ [c]).dropWhile fun d => breakClass d == .extend).head?.any isPictograph := by
  induction near with
  | nil =>
    by_cases hExtend : breakClass c = .extend
    · cases far with
      | nil => rfl
      | cons b far =>
        have hControl := isControl_of_not_joins (Or.inl hExtend) hBoundary
        have hNot := breakClass_ne_extend hControl
        simp [hExtend, hNot, isPictograph_of_isControl hControl]
    · simp [hExtend]
  | cons b near ih =>
    by_cases hExtend : breakClass b = .extend
    · simpa [hExtend] using ih
    · simp [hExtend]

theorem endsInJoinedPictograph_append (near : List Char) :
    endsInJoinedPictograph (near ++ c :: far) = endsInJoinedPictograph (near ++ [c]) := by
  cases near with
  | nil =>
    cases far with
    | nil => rfl
    | cons b far =>
      by_cases hJoiner : breakClass c = .joiner
      · have hControl := isControl_of_not_joins (Or.inr hJoiner) hBoundary
        have hNot := breakClass_ne_extend hControl
        simp [endsInJoinedPictograph, hNot, isPictograph_of_isControl hControl]
      · simp [endsInJoinedPictograph, hJoiner]
  | cons b near =>
    simp only [List.cons_append, endsInJoinedPictograph, any_isPictograph_append hBoundary near]

/-- An even number of regional indicators stands before a boundary before another one. -/
theorem length_takeWhile_regional_append (near : List Char) :
    ((near ++ c :: far).takeWhile fun d => breakClass d == .regional).length % 2 =
      ((near ++ [c]).takeWhile fun d => breakClass d == .regional).length % 2 := by
  induction near with
  | nil =>
    by_cases hRegional : breakClass c = .regional
    · have hEven : (far.takeWhile fun d => breakClass d == .regional).length % 2 = 0 := by
        cases far with
        | nil => rfl
        | cons b far =>
          simp only [joins, Bool.or_eq_false_iff] at hBoundary
          simpa [hRegional, endsInOpenFlag] using hBoundary.2
      simp only [List.nil_append, List.takeWhile_cons, hRegional, beq_self_eq_true, if_true,
        List.length_cons, List.takeWhile_nil, List.length_nil]
      omega
    · simp [hRegional]
  | cons b near ih =>
    by_cases hRegional : breakClass b = .regional
    · simp only [List.cons_append, List.takeWhile_cons, hRegional, beq_self_eq_true, if_true,
        List.length_cons]
      omega
    · simp [hRegional]

/-- **What stands before a boundary does not matter.**  Behind a boundary a scalar goes on with the
cluster before it exactly when it does so with the text cut off at the boundary. -/
theorem joins_append (near : List Char) (d : Char) :
    joins (near ++ c :: far) d = joins (near ++ [c]) d := by
  have hLinked := endsInLinkedConsonant_append hBoundary false near
  have hPictograph := endsInJoinedPictograph_append hBoundary near
  have hFlag : endsInOpenFlag (near ++ c :: far) = endsInOpenFlag (near ++ [c]) := by
    rw [endsInOpenFlag, endsInOpenFlag, length_takeWhile_regional_append hBoundary near]
  cases near with
  | nil =>
    rw [List.nil_append] at hLinked hPictograph hFlag ⊢
    simp only [joins, hLinked, hPictograph, hFlag]
    rfl
  | cons b near =>
    rw [List.cons_append] at hLinked hPictograph hFlag ⊢
    simp only [joins, hLinked, hPictograph, hFlag]
    rfl

end Boundary

/-! ## Boundaries of a text and of its ends -/

theorem isBoundary_nil (back : List Char) : isBoundary [] back = true := by cases back <;> rfl

/-- Behind a boundary, the boundaries of a text are those of what is left of it there. -/
theorem isBoundary_append {front middle back : List Char}
    (h : isBoundary front (middle ++ back) = true) :
    isBoundary (front ++ middle) back = isBoundary middle back := by
  cases middle with
  | nil => rw [List.append_nil, isBoundary_nil, ← h, List.nil_append]
  | cons c middle =>
    cases back with
    | nil => rfl
    | cons d back =>
      have hBoundary : joins front.reverse c = false := by simpa [isBoundary] using h
      have hReverse : (front ++ c :: middle).reverse = middle.reverse ++ c :: front.reverse := by
        simp
      rw [isBoundary, isBoundary, hReverse, List.reverse_cons, joins_append hBoundary]

/-- What is split off ends at a boundary. -/
theorem isBoundary_splitJoined (before text : List Char) :
    isBoundary (before.reverse ++ (splitJoined before text).1) (splitJoined before text).2 =
      true := by
  induction text generalizing before with
  | nil => rfl
  | cons c text ih =>
    by_cases hJoins : joins before c = true
    · simpa [splitJoined, hJoins] using ih (c :: before)
    · simp [splitJoined, hJoins, isBoundary]

/-- A cluster ends at a boundary. -/
theorem isBoundary_of_next? {text cluster rest : List Char}
    (h : next? text = some (cluster, rest)) : isBoundary cluster rest = true := by
  cases text with
  | nil => cases h
  | cons c text =>
    cases h
    exact isBoundary_splitJoined [c] text

/-! ## Clusters on both sides of a boundary -/

/-- Splitting stops at a boundary at the latest. -/
theorem splitJoined_append_of_isBoundary {before text back : List Char}
    (h : isBoundary (before.reverse ++ text) back = true) :
    splitJoined before (text ++ back) =
      ((splitJoined before text).1, (splitJoined before text).2 ++ back) := by
  induction text generalizing before with
  | nil =>
    cases back with
    | nil => rfl
    | cons c back =>
      have hApart : joins before c = false := by simpa [isBoundary] using h
      simp [splitJoined, hApart]
  | cons c text ih =>
    by_cases hJoins : joins before c = true
    · have hFront : isBoundary ((c :: before).reverse ++ text) back = true := by simpa using h
      simp [splitJoined, hJoins, ih hFront]
    · simp [splitJoined, hJoins]

theorem next?_append {front back cluster rest : List Char} (h : isBoundary front back = true)
    (hNext : next? front = some (cluster, rest)) :
    next? (front ++ back) = some (cluster, rest ++ back) := by
  cases front with
  | nil => cases hNext
  | cons c front =>
    cases hNext
    have hSplit : splitJoined [c] (front ++ back) =
        ((splitJoined [c] front).1, (splitJoined [c] front).2 ++ back) :=
      splitJoined_append_of_isBoundary h
    rw [List.cons_append, next?, hSplit]

/-- **The clusters of a text are those of its parts on both sides of a boundary.** -/
theorem clusters_append {front back : List Char} (h : isBoundary front back = true) :
    clusters (front ++ back) = clusters front ++ clusters back := by
  induction hLength : front.length using Nat.strongRecOn generalizing front with
  | ind n ih =>
    cases hNext : next? front with
    | none => rw [clusters_of_next?_eq_none hNext, next?_eq_none_iff.1 hNext]; rfl
    | some found =>
      obtain ⟨cluster, rest⟩ := found
      have hLt := length_lt_of_next? hNext
      have hWhole := next?_append h hNext
      obtain ⟨rfl, -⟩ := next?_eq_some hNext
      have hRest : isBoundary rest back = true := by
        rwa [← isBoundary_append (isBoundary_of_next? hWhole)]
      rw [clusters_of_next? hNext, clusters_of_next? hWhole, List.cons_append,
        ih rest.length (by omega) hRest rfl]

/-! ## The clusters of a text as a whole -/

/-- Goes on to split a text at its boundaries, with all that stands before in sight. `cluster` are
the scalars of the cluster so far; they and those before them are given nearest first. -/
def segmentsFrom (before cluster : List Char) : List Char → List (List Char)
  | [] => [cluster.reverse]
  | c :: text =>
    if joins before c then segmentsFrom (c :: before) (c :: cluster) text
    else cluster.reverse :: segmentsFrom (c :: before) [c] text

/-- The parts of a text between its boundaries. -/
def segments : List Char → List (List Char)
  | [] => []
  | c :: text => segmentsFrom [c] [c] text

theorem clusters_nil : clusters [] = [] := clusters_of_next?_eq_none rfl

theorem clusters_cons (c : Char) (text : List Char) :
    clusters (c :: text) = (c :: (splitJoined [c] text).1) :: clusters (splitJoined [c] text).2 :=
  clusters_of_next? rfl

/-- From a boundary on, before `c`, splitting a text with all of it in sight does what starting over
at every boundary does. -/
theorem segmentsFrom_append {far : List Char} {c : Char} (hBoundary : joins far c = false)
    (near text : List Char) :
    segmentsFrom (near ++ c :: far) (near ++ [c]) text =
      (c :: near.reverse ++ (splitJoined (near ++ [c]) text).1) ::
        clusters (splitJoined (near ++ [c]) text).2 := by
  induction text generalizing near far c with
  | nil => simp [segmentsFrom, splitJoined, clusters_nil]
  | cons d text ih =>
    have hJoins := joins_append hBoundary near d
    cases hApart : joins (near ++ [c]) d with
    | true =>
      have hMore := ih hBoundary (d :: near)
      rw [hApart] at hJoins
      simp only [segmentsFrom, splitJoined, hJoins, hApart, if_true]
      simpa using hMore
    | false =>
      rw [hApart] at hJoins
      have hMore := ih hJoins []
      simp only [segmentsFrom, splitJoined, hJoins, hApart, Bool.false_eq_true, if_false,
        clusters_cons]
      simpa using hMore

/-- **Reading cluster after cluster splits a text where its boundaries are.** -/
theorem segments_eq_clusters (text : List Char) : segments text = clusters text := by
  cases text with
  | nil => exact clusters_nil.symm
  | cons c text =>
    have hStart : joins [] c = false := rfl
    exact (segmentsFrom_append hStart [] text).trans (clusters_cons c text).symm

/-- A mark that Unicode 16.0 added, and a vowel sign and a linker between two consonants. -/
example : segments ['a', '\u0897', '\u0915', '\u0941', '\u094D', '\u0915'] =
    [['a', '\u0897'], ['\u0915', '\u0941', '\u094D', '\u0915']] := by decide +kernel

/-- **The boundaries of a text are the places after some of its clusters.** -/
theorem isBoundary_iff_exists_take {front back : List Char} :
    isBoundary front back = true ↔ ∃ k, front = ((clusters (front ++ back)).take k).flatten := by
  constructor
  · intro h
    refine ⟨(clusters front).length, ?_⟩
    rw [clusters_append h, List.take_left, clusters_flatten]
  · rintro ⟨k, hFront⟩
    induction k generalizing front with
    | zero =>
      rw [hFront]
      exact isBoundary_nil back
    | succ k ih =>
      cases hNext : next? (front ++ back) with
      | none =>
        rw [(List.append_eq_nil_iff.1 (next?_eq_none_iff.1 hNext)).1]
        exact isBoundary_nil back
      | some found =>
        obtain ⟨cluster, rest⟩ := found
        rw [clusters_of_next? hNext, List.take_succ_cons, List.flatten_cons] at hFront
        generalize hMore : ((clusters rest).take k).flatten = more at hFront
        subst hFront
        have hText := (next?_eq_some hNext).1
        rw [List.append_assoc] at hText
        obtain rfl := List.append_cancel_left hText
        rw [isBoundary_append (isBoundary_of_next? hNext)]
        exact ih hMore.symm

end Cluster

end TwoWay
