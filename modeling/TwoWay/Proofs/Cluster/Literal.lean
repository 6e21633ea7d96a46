import TwoWay.Proofs.Cluster.Restart
import TwoWay.Proofs.Reading.Guarded

/-!
# Literals take whole clusters

A literal is compared with the front of a text, and one boundary is asked for behind it. How the
literal would fall into clusters by itself does not matter: where that boundary is one of the text,
the literal is made up of the first clusters of the text, and what is left falls into the others. A
boundary follows every line feed, whatever comes next, so line ends on clusters are those on
scalars.

* `Cluster.isBoundary_iff_segments`: a boundary parts the clusters of a text.
* `Cluster.isBoundary_lineFeed`: a boundary follows every line feed.
* `readLineEnd_graphemes`: line ends on clusters are read as on scalars.
* `Grammar.literal_takes_clusters`: what literals and line ends take off a text.
-/

namespace TwoWay

/-! ## Boundaries -/

namespace Cluster

theorem segments_flatten (text : List Char) : (segments text).flatten = text := by
  rw [segments_eq_clusters, clusters_flatten]

/-- A boundary stands behind any number of the first clusters. -/
theorem isBoundary_take_segments (text : List Char) (k : Nat) :
    text = ((segments text).take k).flatten ++ ((segments text).drop k).flatten ∧
      isBoundary ((segments text).take k).flatten ((segments text).drop k).flatten = true := by
  have hText : text = ((segments text).take k).flatten ++ ((segments text).drop k).flatten := by
    rw [← List.flatten_append, List.take_append_drop, segments_flatten]
  refine ⟨hText, isBoundary_iff_exists_take.2 ⟨k, ?_⟩⟩
  rw [← hText, segments_eq_clusters]

/-- **A boundary parts the clusters of a text**: some of the first ones stand before it, and the
others are those of what stands behind. -/
theorem isBoundary_iff_segments {front back text : List Char} :
    text = front ++ back ∧ isBoundary front back = true ↔
      ∃ k, front = ((segments text).take k).flatten ∧ segments back = (segments text).drop k := by
  constructor
  · rintro ⟨rfl, hBoundary⟩
    refine ⟨(clusters front).length, ?_, ?_⟩
    · rw [segments_eq_clusters, clusters_append hBoundary, List.take_left, clusters_flatten]
    · rw [segments_eq_clusters, segments_eq_clusters, clusters_append hBoundary, List.drop_left]
  · rintro ⟨k, rfl, hBack⟩
    rw [← segments_flatten back, hBack]
    exact isBoundary_take_segments text k

/-- Nothing goes on after a line feed. -/
theorem joins_lineFeed (before : List Char) (c : Char) : joins ('\n' :: before) c = false := by
  have hClass : breakClass '\n' = .lineFeed := by decide +kernel
  have hLinker : isLinker '\n' = false := by decide +kernel
  have hExtender : isConjunctExtender '\n' = false := by decide +kernel
  have hNeighbours (next : BreakClass) : neighboursJoin .lineFeed next = false := by
    cases next <;> rfl
  simp [joins, hClass, hNeighbours, endsInLinkedConsonant, hLinker, hExtender,
    endsInJoinedPictograph, endsInOpenFlag]

theorem isBoundary_lineFeed (front back : List Char) :
    isBoundary (front ++ ['\n']) back = true := by
  cases back with
  | nil => rfl
  | cons c back => simp [isBoundary, joins_lineFeed]

end Cluster

/-! ## Line ends -/

/-- A literal that is always followed by a boundary is read on clusters as on scalars. -/
theorem readLiteral_graphemes {literal : List Char}
    (h : ∀ rest, Cluster.isBoundary literal rest = true) :
    readLiteral (v := .graphemes) literal = readLiteral (v := .chars) literal := by
  funext text
  unfold readLiteral
  cases Text.afterOpening? literal text with
  | none => rfl
  | some rest => simp only [View.isBoundary, h rest]

theorem readLineEnd_graphemes : readLineEnd .graphemes = readLineEnd .chars := by
  have hLong : readLiteral View.graphemes.longLineEnd = readLiteral View.chars.longLineEnd :=
    readLiteral_graphemes (Cluster.isBoundary_lineFeed ['\r'])
  have hShort : readLiteral View.graphemes.shortLineEnd = readLiteral View.chars.shortLineEnd :=
    readLiteral_graphemes (Cluster.isBoundary_lineFeed [])
  rw [readLineEnd, hLong, hShort]
  rfl

theorem readLineEnd_chars_eq_done_iff {text rest : List Char} :
    readLineEnd .chars text = .done () rest ↔
      text = '\n' :: rest ∨ text = '\r' :: '\n' :: rest := by
  constructor
  · intro h
    exact (readLineEnd_eq_done h).symm
  · rintro (rfl | rfl)
    · have hLong : readLiteral (v := .chars) ['\r', '\n'] ('\n' :: rest) =
          .failed .parse ('\n' :: rest) := rfl
      exact Step.orElse_eq_done_iff.2 (Or.inr ⟨_, _, hLong, readLiteral_eq_done_iff.2 ⟨rfl, rfl⟩⟩)
    · exact Step.orElse_eq_done_iff.2 (Or.inl (readLiteral_eq_done_iff.2 ⟨rfl, rfl⟩))

theorem readLineEnd_ne_aborted (v : View) (text : v.Text) (fault : Fault) :
    readLineEnd v text ≠ .aborted fault := by
  have hNone : Step.AbortsOnly (fun _ => False) (readLineEnd v) := abortsOnly_readLineEnd v
  exact fun h => hNone text fault h

theorem readLineEnd_chars_eq_failed_iff {text left : List Char} {failure : Failure} :
    readLineEnd .chars text = .failed failure left ↔
      (failure = .parse ∧ left = text) ∧
        ∀ rest, ¬ (text = '\n' :: rest ∨ text = '\r' :: '\n' :: rest) := by
  rw [(restores_readLineEnd .chars).eq_failed_iff (readLineEnd_ne_aborted .chars text)]
  exact and_congr_right fun _ => forall_congr' fun _ => not_congr readLineEnd_chars_eq_done_iff

/-! ## Literals -/

section Literals

variable {literal text rest left : List Char} {failure : Failure}

theorem readLiteral_graphemes_eq_done_iff :
    readLiteral (v := .graphemes) literal text = .done () rest ↔
      ∃ k, literal = ((Cluster.segments text).take k).flatten ∧
        Cluster.segments rest = (Cluster.segments text).drop k :=
  readLiteral_eq_done_iff.trans Cluster.isBoundary_iff_segments

theorem exists_readLiteral_graphemes_iff :
    (∃ rest, readLiteral (v := .graphemes) literal text = .done () rest) ↔
      ∃ k, literal = ((Cluster.segments text).take k).flatten := by
  constructor
  · rintro ⟨rest, hDone⟩
    obtain ⟨k, hLiteral, -⟩ := readLiteral_graphemes_eq_done_iff.1 hDone
    exact ⟨k, hLiteral⟩
  · rintro ⟨k, rfl⟩
    exact ⟨_, readLiteral_eq_done_iff.2 (Cluster.isBoundary_take_segments text k)⟩

theorem readLiteral_graphemes_eq_failed_iff :
    readLiteral (v := .graphemes) literal text = .failed failure left ↔
      (failure = .parse ∧ left = text) ∧
        ∀ k, literal ≠ ((Cluster.segments text).take k).flatten := by
  have hTotal := readLiteral_ne_aborted (v := .graphemes) literal text
  rw [(restores_readLiteral _).eq_failed_iff hTotal]
  simp only [ne_eq]
  rw [← not_exists, ← not_exists, exists_readLiteral_graphemes_iff]

end Literals

/-- **Literals and line ends take whole clusters.**  A literal is read from a text exactly when it
is the first `k` clusters of the text for some `k`, joined, and the other clusters are what is left.
Elsewhere it fails and the text is left as it was. A line end is read on clusters as on scalars:
from every text that starts with a line feed, or with a carriage return and a line feed, whatever
follows. -/
theorem Grammar.literal_takes_clusters (literal text : List Char) :
    let clusters := Cluster.segments text
    let whole : Grammar .graphemes Unit := .literal literal
    let lineEnd : Grammar .graphemes Unit := .lineEnd
    ((∀ rest, whole.parse text = .done () rest ↔
        ∃ k, literal = (clusters.take k).flatten ∧ Cluster.segments rest = clusters.drop k) ∧
      ((∃ rest, whole.parse text = .done () rest) ↔ ∃ k, literal = (clusters.take k).flatten) ∧
      (∀ failure left, whole.parse text = .failed failure left ↔
        (failure = .parse ∧ left = text) ∧ ∀ k, literal ≠ (clusters.take k).flatten) ∧
      ∀ fault, whole.parse text ≠ .aborted fault) ∧
    lineEnd.parse text = (Grammar.lineEnd : Grammar .chars Unit).parse text ∧
    (∀ rest, lineEnd.parse text = .done () rest ↔
      text = '\n' :: rest ∨ text = '\r' :: '\n' :: rest) ∧
    (∀ failure left, lineEnd.parse text = .failed failure left ↔
      (failure = .parse ∧ left = text) ∧
        ∀ rest, ¬ (text = '\n' :: rest ∨ text = '\r' :: '\n' :: rest)) ∧
    ∀ fault, lineEnd.parse text ≠ .aborted fault := by
  intro clusters whole lineEnd
  have hLineEnd : lineEnd.parse = readLineEnd .chars := readLineEnd_graphemes
  rw [hLineEnd]
  have hTotal := readLiteral_ne_aborted (v := .graphemes) literal text
  exact ⟨⟨fun _ => readLiteral_graphemes_eq_done_iff, exists_readLiteral_graphemes_iff,
      fun _ _ => readLiteral_graphemes_eq_failed_iff, hTotal⟩,
    rfl, fun _ => readLineEnd_chars_eq_done_iff, fun _ _ => readLineEnd_chars_eq_failed_iff,
    readLineEnd_ne_aborted .chars text⟩

-- a pictograph that a joiner ties to the next one is not the first cluster
example : (Grammar.literal ['👩'] : Grammar .graphemes Unit).parse ['👩', '\u200D', '🚀'] =
    .failed .parse ['👩', '\u200D', '🚀'] := by
  decide +kernel

end TwoWay
