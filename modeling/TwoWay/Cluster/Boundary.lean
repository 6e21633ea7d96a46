import TwoWay.Cluster.Property

/-!
# Extended grapheme clusters

A text falls into clusters between which the rules of UAX #29 for Unicode 17.0 place a boundary. A
rule looks at the scalar after a position and at those before it, nearest first, as far back as the
text starts.

* `joins`: whether the rules forbid a boundary.
* `next?`: the first cluster and what follows it.
* `next?_eq_some`: the cluster and what follows it make up the text, and the cluster is not empty.
* `clusters_flatten`: the clusters of a text, joined, are the text.
-/

namespace TwoWay.Cluster

/-! ## Where a cluster goes on -/

/-- Whether the scalars before a position end in a consonant that a linker ties to the next one. -/
def endsInLinkedConsonant : (linked : Bool) → List Char → Bool
  | _, [] => false
  | linked, b :: before =>
    if isLinker b then endsInLinkedConsonant true before
    else if isConjunctExtender b then endsInLinkedConsonant linked before
    else linked && isConsonant b

/-- Whether the scalars before a position end in a pictograph, extenders and a joiner. -/
def endsInJoinedPictograph : List Char → Bool
  | [] => false
  | b :: before =>
    breakClass b == .joiner &&
      ((before.dropWhile fun c => breakClass c == .extend).head?.any isPictograph)

/-- Whether an odd number of regional indicators stands right before a position. -/
def endsInOpenFlag (before : List Char) : Bool :=
  (before.takeWhile fun c => breakClass c == .regional).length % 2 == 1

/-- Whether a scalar of one class never starts a cluster after a scalar of another: the rules that
need no more than two neighbours. -/
def neighboursJoin : BreakClass → BreakClass → Bool
  | .carriageReturn, .lineFeed => true
  | .carriageReturn, _ | .lineFeed, _ | .control, _ => false
  | _, .carriageReturn | _, .lineFeed | _, .control => false
  | .leadingJamo, .leadingJamo | .leadingJamo, .vowelJamo => true
  | .leadingJamo, .openSyllable | .leadingJamo, .closedSyllable => true
  | .openSyllable, .vowelJamo | .openSyllable, .trailingJamo => true
  | .vowelJamo, .vowelJamo | .vowelJamo, .trailingJamo => true
  | .closedSyllable, .trailingJamo | .trailingJamo, .trailingJamo => true
  | _, .extend | _, .joiner | _, .spacing => true
  | .prepended, _ => true
  | _, _ => false

/-- Whether a scalar belongs to the cluster of the scalars before it, which are given nearest
first. -/
def joins (before : List Char) (c : Char) : Bool :=
  match before with
  | [] => false
  | b :: _ =>
    neighboursJoin (breakClass b) (breakClass c) ||
      (isConsonant c && endsInLinkedConsonant false before) ||
      (isPictograph c && endsInJoinedPictograph before) ||
      (breakClass c == .regional && endsInOpenFlag before)

/-- Whether a boundary lies between two parts of a text. The start and the end are boundaries. -/
def isBoundary (front back : List Char) : Bool :=
  match back with
  | [] => true
  | c :: _ => !joins front.reverse c

/-! ## The clusters of a text -/

/-- Splits off the scalars that go on with the cluster of those before them. -/
def splitJoined : (before : List Char) → List Char → List Char × List Char
  | _, [] => ([], [])
  | before, c :: text =>
    if joins before c then
      let (more, rest) := splitJoined (c :: before) text
      (c :: more, rest)
    else ([], c :: text)

/-- The first cluster of a text, and what follows it. -/
def next? : List Char → Option (List Char × List Char)
  | [] => none
  | c :: text =>
    let (more, rest) := splitJoined [c] text
    some (c :: more, rest)

theorem splitJoined_append (before text : List Char) :
    (splitJoined before text).1 ++ (splitJoined before text).2 = text := by
  induction text generalizing before with
  | nil => rfl
  | cons c text ih =>
    by_cases h : joins before c
    · simp [splitJoined, h, ih]
    · simp [splitJoined, h]

theorem next?_eq_some {text cluster rest : List Char} (h : next? text = some (cluster, rest)) :
    text = cluster ++ rest ∧ cluster ≠ [] := by
  cases text with
  | nil => cases h
  | cons c text =>
    simp only [next?, Option.some.injEq, Prod.mk.injEq] at h
    obtain ⟨rfl, rfl⟩ := h
    exact ⟨by rw [List.cons_append, splitJoined_append], by simp⟩

theorem length_lt_of_next? {text cluster rest : List Char}
    (h : next? text = some (cluster, rest)) : rest.length < text.length := by
  obtain ⟨rfl, hNonempty⟩ := next?_eq_some h
  have := List.length_pos_iff.2 hNonempty
  rw [List.length_append]
  omega

/-- The clusters of a text, in order. -/
def clusters (text : List Char) : List (List Char) :=
  match h : next? text with
  | none => []
  | some (cluster, rest) =>
    have := length_lt_of_next? h
    cluster :: clusters rest
termination_by text.length

theorem clusters_of_next?_eq_none {text : List Char} (h : next? text = none) :
    clusters text = [] := by
  rw [clusters]
  split
  · rfl
  · rename_i h'
    rw [h] at h'
    cases h'

theorem clusters_of_next? {text cluster rest : List Char}
    (h : next? text = some (cluster, rest)) : clusters text = cluster :: clusters rest := by
  rw [clusters]
  split
  · rename_i h'
    rw [h] at h'
    cases h'
  · rename_i h'
    rw [h] at h'
    cases h'
    rfl

theorem next?_eq_none_iff {text : List Char} : next? text = none ↔ text = [] := by
  cases text <;> simp [next?]

theorem clusters_flatten (text : List Char) : (clusters text).flatten = text := by
  induction hLength : text.length using Nat.strongRecOn generalizing text with
  | ind n ih =>
    cases h : next? text with
    | none => rw [clusters_of_next?_eq_none h, next?_eq_none_iff.1 h]; rfl
    | some found =>
      obtain ⟨cluster, rest⟩ := found
      have hLt := length_lt_of_next? h
      rw [clusters_of_next? h, List.flatten_cons, ih rest.length (by omega) rest rfl]
      exact (next?_eq_some h).1.symm

end TwoWay.Cluster
