import TwoWay.Proofs.Bridge.Composition
import TwoWay.Proofs.Cluster.Restart

/-!
# Texts whose clusters are scalars

The same grammar can be built on scalars and on clusters. On a text where every cluster is one
scalar both read the same: no boundary is missing between two scalars, so a literal finds one
wherever it ends, a run has as many tokens, and a round of a repetition leaves as much. Whatever is
left to read is such a text again.

* `Cluster.AreScalars`: every cluster of the text is one scalar.
* `Cluster.AreScalars.isBoundary_append`: every place in such a text is a boundary.
* `Grammar.BuiltAlike`: a grammar on scalars and the same one built on clusters.
* `Grammar.BuiltAlike.lockstep`: the two read such a text in lockstep.
* `Grammar.BuiltAlike.parse_agrees`: so they come to the same outcome.
-/

namespace TwoWay

/-! ## Texts -/

namespace Cluster

/-- Every cluster of the text is one scalar. -/
def AreScalars (text : List Char) : Prop := ∀ cluster ∈ clusters text, cluster.length = 1

instance (text : List Char) : Decidable (AreScalars text) :=
  inferInstanceAs (Decidable (∀ cluster ∈ clusters text, cluster.length = 1))

namespace AreScalars

variable {c : Char} {text front back : List Char}

/-- The first cluster is the first scalar. -/
theorem next?_cons (h : AreScalars (c :: text)) :
    next? (c :: text) = some ([c], text) ∧ AreScalars text := by
  cases hNext : next? (c :: text) with
  | none => exact absurd (next?_eq_none_iff.1 hNext) (List.cons_ne_nil c text)
  | some found =>
    obtain ⟨cluster, rest⟩ := found
    obtain ⟨hText, -⟩ := next?_eq_some hNext
    rw [AreScalars, clusters_of_next? hNext, List.forall_mem_cons] at h
    obtain ⟨d, rfl⟩ := List.length_eq_one_iff.1 h.1
    obtain ⟨rfl, rfl⟩ := List.cons.inj hText
    exact ⟨rfl, h.2⟩

/-- Every place in the text is a boundary, and what is left there is such a text again. -/
theorem isBoundary_append (h : AreScalars (front ++ back)) :
    isBoundary front back = true ∧ AreScalars back := by
  induction front with
  | nil => exact ⟨isBoundary_nil back, h⟩
  | cons c front ih =>
    obtain ⟨hNext, hMore⟩ := h.next?_cons
    obtain ⟨hBoundary, hBack⟩ := ih hMore
    refine ⟨?_, hBack⟩
    rw [← hBoundary, ← Cluster.isBoundary_append (isBoundary_of_next? hNext), List.singleton_append]

end AreScalars

end Cluster

/-- The texts are the same and every cluster is one scalar. -/
def SameScalars (text text' : List Char) : Prop := text = text' ∧ Cluster.AreScalars text

/-- A test of scalars and a test of clusters that answers on one scalar as the first one does. -/
structure ScalarTest where
  onScalars : Test .chars
  onClusters : Test .graphemes
  agree : ∀ c, onClusters [c] = onScalars c

/-! ## Leaves -/

section Leaves

open Step (Lockstep)

theorem lockstep_readToken_scalars :
    Lockstep SameScalars (fun c cluster => [c] = cluster) (readToken .chars)
      (readToken .graphemes) := by
  rintro text _ ⟨rfl, hText⟩
  cases text with
  | nil => exact .failed ⟨rfl, hText⟩
  | cons c text =>
    obtain ⟨hNext, hRest⟩ := hText.next?_cons
    simp only [readToken, View.next?, hNext]
    exact .done rfl ⟨rfl, hRest⟩

theorem lockstep_readEnd_scalars :
    Lockstep SameScalars Eq (readEnd .chars) (readEnd .graphemes) := by
  rintro text _ ⟨rfl, hText⟩
  unfold readEnd
  split
  · exact .done rfl ⟨rfl, hText⟩
  · exact .failed ⟨rfl, hText⟩

theorem lockstep_readLiteral_scalars (literal : List Char) :
    Lockstep SameScalars Eq (readLiteral (v := .chars) literal)
      (readLiteral (v := .graphemes) literal) := by
  rintro text _ ⟨rfl, hText⟩
  unfold readLiteral
  cases hFound : Text.afterOpening? literal text with
  | none => exact .failed ⟨rfl, hText⟩
  | some rest =>
    rw [Text.afterOpening?_eq_some_iff.1 hFound] at hText
    obtain ⟨hBoundary, hRest⟩ := hText.isBoundary_append
    simp only [View.isBoundary, hBoundary]
    exact .done rfl ⟨rfl, hRest⟩

theorem lockstep_readLineEnd_scalars :
    Lockstep SameScalars Eq (readLineEnd .chars) (readLineEnd .graphemes) :=
  (lockstep_readLiteral_scalars ['\r', '\n']).orElse (lockstep_readLiteral_scalars ['\n'])

namespace ScalarTest

variable (test : ScalarTest)

/-- A run of clusters has the scalars of a run of scalars. -/
theorem lockstep_takeRun (limit : Option Nat) :
    Lockstep SameScalars (fun run run' => run.map (fun c => [c]) = run')
      (takeRun test.onScalars limit) (takeRun test.onClusters limit) := by
  rintro text _ ⟨rfl, hText⟩
  induction text generalizing limit with
  | nil =>
    rw [takeRun_of_none rfl, takeRun_of_none rfl]
    exact .done rfl ⟨rfl, hText⟩
  | cons c text ih =>
    by_cases hLimit : limit = some 0
    · rw [hLimit, takeRun_zero, takeRun_zero]
      exact .done rfl ⟨rfl, hText⟩
    have hNext : View.graphemes.next? (c :: text) = some ([c], text) := hText.next?_cons.1
    have hRest := hText.next?_cons.2
    have hAgree := test.agree c
    cases hTest : test.onScalars c with
    | error fault =>
      rw [takeRun_of_error hLimit rfl hTest, takeRun_of_error hLimit hNext (hAgree.trans hTest)]
      exact .aborted
    | ok accepted =>
      cases accepted with
      | false =>
        rw [takeRun_of_refused rfl hTest, takeRun_of_refused hNext (hAgree.trans hTest)]
        exact .done rfl ⟨rfl, hText⟩
      | true =>
        rw [takeRun_of_accepted hLimit rfl hTest,
          takeRun_of_accepted hLimit hNext (hAgree.trans hTest)]
        exact (ih _ hRest).map fun _ _ hRun => congrArg ([c] :: ·) hRun

theorem lockstep_readRun (bounds : Bounds) :
    Lockstep SameScalars Eq (readRun test.onScalars bounds) (readRun test.onClusters bounds) := by
  intro text text' h
  unfold readRun
  have hRun := test.lockstep_takeRun bounds.most text text' h
  generalize takeRun test.onScalars bounds.most text = outcome,
    takeRun test.onClusters bounds.most text' = outcome' at hRun ⊢
  cases hRun with
  | @done run run' rest rest' hTokens hRest =>
    subst hTokens
    have hText : View.chars.textOf run = View.graphemes.textOf (run.map fun c => [c]) :=
      (List.flatMap_map (fun c => [c]) View.graphemes.tokenText run).symm
    simp only [List.length_map]
    split
    · exact .done hText hRest
    · exact .failed h
  | failed hRest => exact .failed h
  | aborted => exact .aborted

end ScalarTest

end Leaves

/-! ## Grammars -/

namespace Grammar

/-- A grammar on scalars and the same one built on clusters: literals are the same texts, runs have
tests that agree on scalars, and the function makes the tokens inside a value clusters. -/
inductive BuiltAlike :
    {α β : Type} → (α → β) → Grammar .chars α → Grammar .graphemes β → Prop
  | always {α β : Type} (f : α → β) (value : α) : BuiltAlike f (.always value) (.always (f value))
  | finish : BuiltAlike id .finish .finish
  | token : BuiltAlike (fun c => [c]) .token .token
  | literal (text : List Char) : BuiltAlike id (.literal text) (.literal text)
  | lineEnd : BuiltAlike id .lineEnd .lineEnd
  | run (test : ScalarTest) (bounds : Bounds) :
      BuiltAlike id (.run test.onScalars bounds) (.run test.onClusters bounds)
  | dropValue {α β : Type} {f : α → β} {g : Grammar .chars α} {h : Grammar .graphemes β} :
      BuiltAlike f g h → BuiltAlike id g.dropValue h.dropValue
  | pair {α β γ δ : Type} {f : α → β} {f' : γ → δ} {g : Grammar .chars α} {g' : Grammar .chars γ}
      {h : Grammar .graphemes β} {h' : Grammar .graphemes δ} :
      BuiltAlike f g h → BuiltAlike f' g' h' → BuiltAlike (Prod.map f f') (.pair g g') (.pair h h')
  | skipThen {α β : Type} {f : α → β} {g : Grammar .chars Unit} {g' : Grammar .chars α}
      {h : Grammar .graphemes Unit} {h' : Grammar .graphemes β} :
      BuiltAlike id g h → BuiltAlike f g' h' → BuiltAlike f (.skipThen g g') (.skipThen h h')
  | thenSkip {α β : Type} {f : α → β} {g : Grammar .chars α} {g' : Grammar .chars Unit}
      {h : Grammar .graphemes β} {h' : Grammar .graphemes Unit} :
      BuiltAlike f g h → BuiltAlike id g' h' → BuiltAlike f (.thenSkip g g') (.thenSkip h h')
  | orElse {α β : Type} {f : α → β} {g g' : Grammar .chars α} {h h' : Grammar .graphemes β} :
      BuiltAlike f g h → BuiltAlike f g' h' → BuiltAlike f (.orElse g g') (.orElse h h')
  | optional {α β : Type} {f : α → β} {g : Grammar .chars α} {h : Grammar .graphemes β} :
      BuiltAlike f g h → BuiltAlike (Option.map f) (.optional g) (.optional h)
  | many {α β : Type} {f : α → β} {element : Grammar .chars α} {element' : Grammar .graphemes β}
      {separator : Grammar .chars Unit} {separator' : Grammar .graphemes Unit} (bounds : Bounds) :
      BuiltAlike f element element' → BuiltAlike id separator separator' →
        BuiltAlike (List.map f) (.many element separator bounds .list)
          (.many element' separator' bounds .list)

namespace BuiltAlike

open Step (Lockstep)

variable {α β γ δ : Type} {f : α → β} {g : Grammar .chars α} {h : Grammar .graphemes β}

theorem lockstep_andThen {f' : γ → δ} {g' : Grammar .chars γ} {h' : Grammar .graphemes δ}
    (hFirst : Lockstep SameScalars (fun a b => f a = b) g.parse h.parse)
    (hSecond : Lockstep SameScalars (fun a b => f' a = b) g'.parse h'.parse) :
    Lockstep SameScalars (fun p q => Prod.map f f' p = q)
      (Step.andThen View.chars.restart g.parse g'.parse)
      (Step.andThen View.graphemes.restart h.parse h'.parse) :=
  hFirst.andThen hSecond (fun _ _ _ _ hStart _ => hStart) fun _ _ _ _ hab hcd => Prod.ext hab hcd

/-- Grammars that are built alike read in lockstep where every cluster is one scalar. -/
theorem lockstep (hAlike : BuiltAlike f g h) :
    Lockstep SameScalars (fun a b => f a = b) g.parse h.parse := by
  induction hAlike with
  | always f value => exact .pure rfl
  | finish => exact lockstep_readEnd_scalars
  | token => exact lockstep_readToken_scalars
  | literal text => exact lockstep_readLiteral_scalars text
  | lineEnd => exact lockstep_readLineEnd_scalars
  | run test bounds => exact test.lockstep_readRun bounds
  | dropValue _ ih => exact ih.map fun _ _ _ => rfl
  | pair _ _ ih ih' => exact lockstep_andThen ih ih'
  | skipThen _ _ ih ih' => exact (lockstep_andThen ih ih').map fun _ _ => congrArg Prod.snd
  | thenSkip _ _ ih ih' => exact (lockstep_andThen ih ih').map fun _ _ => congrArg Prod.fst
  | orElse _ _ ih ih' => exact ih.orElse ih'
  | optional _ ih => exact ih.attempt rfl fun _ _ hab => congrArg some hab
  | many bounds _ _ ih ih' =>
    refine ih.readMany ih' ?_ rfl ?_
    · rintro s _ s₂ _ ⟨rfl, -⟩ ⟨rfl, -⟩
      rw [size_graphemes_eq, size_graphemes_eq]
    · rintro values _ a _ rfl rfl
      exact List.map_append

/-- **On scalars, clusters are read as scalars are.**  On a text whose clusters are single scalars,
a grammar built on clusters comes to the same outcome as the one built on scalars, with the same
text left and the same value, once its tokens are taken as clusters. -/
theorem parse_agrees (hAlike : BuiltAlike f g h) (text : List Char)
    (hText : Cluster.AreScalars text) :
    h.parse text = (g.parse text).map f ∧ h.parseAll text = (g.parseAll text).map f := by
  have hParse : h.parse text = (g.parse text).map f := by
    have hRelated := hAlike.lockstep text text ⟨rfl, hText⟩
    generalize g.parse text = outcome, h.parse text = outcome' at hRelated ⊢
    cases hRelated with
    | done hValue hRest => rw [Outcome.map, hValue, hRest.1]
    | failed hLeft => rw [Outcome.map, hLeft.1]
    | aborted => rfl
  refine ⟨hParse, ?_⟩
  unfold parseAll
  rw [hParse]
  cases g.parse text with
  | done value rest =>
    simp only [Outcome.map]
    split <;> rfl
  | failed failure left => rfl
  | aborted fault => rfl

/-- Halves of flags, each in a cluster of its own, and a line end of one scalar. -/
theorem parse_agrees_halves :
    let onScalars : Grammar .chars (List Char) :=
      .thenSkip (.many .token (.literal [',']) (.orMore 1) .list) .lineEnd
    let onClusters : Grammar .graphemes (List (List Char)) :=
      .thenSkip (.many .token (.literal [',']) (.orMore 1) .list) .lineEnd
    let text := ['🇩', ',', '🇫', '\n', 'x']
    BuiltAlike (List.map fun c => [c]) onScalars onClusters ∧ Cluster.AreScalars text ∧
      onClusters.parse text = .done [['🇩'], ['🇫']] ['x'] ∧
      onClusters.parseAll text = .failed .parse ['x'] := by
  intro onScalars onClusters text
  have hAlike : BuiltAlike (List.map fun c => [c]) onScalars onClusters :=
    .thenSkip (.many (.orMore 1) .token (.literal [','])) .lineEnd
  have hText : Cluster.AreScalars text := by decide +kernel
  obtain ⟨hParse, hAll⟩ := parse_agrees hAlike text hText
  exact ⟨hAlike, hText, hParse.trans (by decide +kernel), hAll.trans (by decide +kernel)⟩

end BuiltAlike

end Grammar

end TwoWay
