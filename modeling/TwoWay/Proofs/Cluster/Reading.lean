import TwoWay.Proofs.Cluster.Restart
import TwoWay.Proofs.Reading.Run
import TwoWay.Proofs.Reading.Suffix

/-!
# Clusters are read whole

A grammar of clusters takes clusters off a text that it sees only from where it stands, and a
literal asks there whether a boundary follows it. Because the clusters may be counted from any
boundary on, every grammar that reads clusters only stops at a boundary of the text it started on,
with the same clusters ahead.

* `View.StopsIn`: what is left of a text starts at a boundary of the text.
* `View.StopsIn.trans`: a boundary of what is left at a boundary is one of the text.
* `Grammar.staysInView`: whether a grammar reads its own view only.
* `Grammar.stopsIn_parse`: such a grammar stops at a boundary.
* `Grammar.parse_keeps_clusters`: so it reads some clusters and leaves the others.
-/

namespace TwoWay

/-! ## Boundaries of a view -/

namespace View

theorem isBoundary_nil (v : View) (back : v.Text) : v.isBoundary [] back = true := by
  cases v with
  | graphemes => exact Cluster.isBoundary_nil back
  | chars | bytes | sharedBytes => rfl

theorem isBoundary_append (v : View) {front middle back : v.Text}
    (h : v.isBoundary front (middle ++ back) = true) :
    v.isBoundary (front ++ middle) back = v.isBoundary middle back := by
  cases v with
  | graphemes => exact Cluster.isBoundary_append h
  | chars | bytes | sharedBytes => rfl

theorem isBoundary_of_next? (v : View) {text rest : v.Text} {token : v.Token}
    (h : v.next? text = some (token, rest)) : v.isBoundary (v.tokenText token) rest = true := by
  cases v with
  | graphemes => exact Cluster.isBoundary_of_next? h
  | chars | bytes | sharedBytes => rfl

/-- What is left of a text starts at a boundary of the text. -/
def StopsIn (v : View) (rest text : v.Text) : Prop :=
  ∃ front, text = front ++ rest ∧ v.isBoundary front rest = true

variable {v : View} {text middle rest : v.Text}

theorem stopsIn_refl (text : v.Text) : v.StopsIn text text := ⟨[], rfl, v.isBoundary_nil text⟩

/-- A boundary of what is left at a boundary is a boundary of the text. -/
theorem StopsIn.trans (h : v.StopsIn rest middle) (h' : v.StopsIn middle text) :
    v.StopsIn rest text := by
  obtain ⟨near, rfl, hNear⟩ := h
  obtain ⟨far, rfl, hFar⟩ := h'
  refine ⟨far ++ near, (List.append_assoc _ _ _).symm, ?_⟩
  rw [v.isBoundary_append hFar, hNear]

theorem stopsIn_of_next? {token : v.Token} (h : v.next? text = some (token, rest)) :
    v.StopsIn rest text :=
  ⟨v.tokenText token, (v.next?_eq_some h).1, v.isBoundary_of_next? h⟩

/-- Where tokens are characters, every place is a boundary. -/
theorem stopsIn_of_suffix (hv : v.hasCharacters = true) (h : rest <:+ text) :
    v.StopsIn rest text := by
  obtain ⟨front, rfl⟩ := h
  exact ⟨front, rfl, isBoundary_of_hasCharacters hv front rest⟩

end View

/-! ## Leaves -/

section Leaves

open Step (MovesBy)

variable {v : View}

theorem stopsIn_readToken (v : View) : MovesBy v.StopsIn (readToken v) :=
  fun _ _ _ h => View.stopsIn_of_next? (readToken_eq_done_iff.1 h)

theorem stopsIn_readEnd (v : View) : MovesBy v.StopsIn (readEnd v) := by
  intro s found rest h
  obtain ⟨rfl, rfl⟩ := readEnd_eq_done_iff.1 h
  exact View.stopsIn_refl _

theorem stopsIn_readLiteral (literal : v.Text) : MovesBy v.StopsIn (readLiteral literal) :=
  fun _ _ _ h => ⟨literal, readLiteral_eq_done_iff.1 h⟩

theorem stopsIn_readLineEnd (v : View) : MovesBy v.StopsIn (readLineEnd v) :=
  (stopsIn_readLiteral _).orElse (stopsIn_readLiteral _) (restores_readLiteral _)

theorem stopsIn_takeRun (test : Test v) (limit : Option Nat) :
    MovesBy v.StopsIn (takeRun test limit) := by
  intro text tokens rest h
  fun_induction takeRun test limit text generalizing tokens with
  | case1 text => cases h; exact View.stopsIn_refl _
  | case2 limit text hLimit hNext => cases h; exact View.stopsIn_refl _
  | case3 limit text hLimit token after hNext fault hTest => cases h
  | case4 limit text hLimit token after hNext hTest => cases h; exact View.stopsIn_refl _
  | case5 limit text hLimit token after hNext hTest hLess ih =>
    obtain ⟨more, hMore, -⟩ := Outcome.map_eq_done_iff.1 h
    exact (ih _ hMore).trans (View.stopsIn_of_next? hNext)

theorem stopsIn_readRun (test : Test v) (bounds : Bounds) :
    MovesBy v.StopsIn (readRun test bounds) := by
  intro s run rest h
  obtain ⟨tokens, hTake, -, -⟩ := readRun_eq_done_iff.1 h
  exact stopsIn_takeRun test _ s tokens rest hTake

end Leaves

/-! ## Grammars -/

namespace Grammar

open Step (MovesBy)

/-- Whether the grammar reads its own view only, with no bridge to another one. -/
def staysInView : {v : View} → {α : Type} → Grammar v α → Bool
  | _, _, always _ | _, _, finish | _, _, token | _, _, literal _ => true
  | _, _, lineEnd | _, _, run _ _ | _, _, number _ _ | _, _, identifier _ => true
  | _, _, pair first second => first.staysInView && second.staysInView
  | _, _, skipThen first second => first.staysInView && second.staysInView
  | _, _, thenSkip first second => first.staysInView && second.staysInView
  | _, _, orElse first second => first.staysInView && second.staysInView
  | _, _, optional grammar => grammar.staysInView
  | _, _, map _ grammar => grammar.staysInView
  | _, _, convert _ _ grammar => grammar.staysInView
  | _, _, writtenBy reader _ => reader.staysInView
  | _, _, many element separator _ _ => element.staysInView && separator.staysInView
  | _, _, across _ _ => false

variable {v : View} {α β : Type}

theorem stopsIn_andThen {first : Grammar v α} {second : Grammar v β}
    (hFirst : first.staysInView = true → MovesBy v.StopsIn first.parse)
    (hSecond : second.staysInView = true → MovesBy v.StopsIn second.parse)
    (h : (first.staysInView && second.staysInView) = true) :
    MovesBy v.StopsIn (Step.andThen v.restart first.parse second.parse) := by
  obtain ⟨h₁, h₂⟩ := Bool.and_eq_true_iff.1 h
  exact (hFirst h₁).andThen View.StopsIn.trans (hSecond h₂)

/-- **A grammar that stays in its view stops at a boundary.** -/
theorem stopsIn_parse (grammar : Grammar v α) :
    grammar.staysInView = true → MovesBy v.StopsIn grammar.parse := by
  induction grammar with
  | always value => exact fun _ => Step.movesBy_pure View.stopsIn_refl value
  | finish => exact fun _ => stopsIn_readEnd _
  | token => exact fun _ => stopsIn_readToken _
  | literal text => exact fun _ => stopsIn_readLiteral text
  | lineEnd => exact fun _ => stopsIn_readLineEnd _
  | run test bounds => exact fun _ => stopsIn_readRun test bounds
  | number form hv =>
    exact fun _ s _ rest h => View.stopsIn_of_suffix hv (advances_readNumber _ form s _ rest h)
  | identifier hv =>
    exact fun _ s _ rest h => View.stopsIn_of_suffix hv (advances_readIdentifier _ s _ rest h)
  | pair first second hFirst hSecond => exact stopsIn_andThen hFirst hSecond
  | skipThen first second hFirst hSecond => exact fun h => (stopsIn_andThen hFirst hSecond h).map _
  | thenSkip first second hFirst hSecond => exact fun h => (stopsIn_andThen hFirst hSecond h).map _
  | orElse first second hFirst hSecond =>
    intro h
    obtain ⟨h₁, h₂⟩ := Bool.and_eq_true_iff.1 h
    exact (hFirst h₁).orElse (hSecond h₂) first.restores_parse
  | optional grammar ih =>
    exact fun h => (ih h).attempt View.stopsIn_refl grammar.restores_parse
  | map f grammar ih => exact fun h => (ih h).map f
  | convert apply unapply grammar ih => exact fun h => (ih h).map apply
  | writtenBy reader writer hReader hWriter => exact fun h => (hReader h).map _
  | many element separator bounds acc hElement hSeparator =>
    intro h
    obtain ⟨h₁, h₂⟩ := Bool.and_eq_true_iff.1 h
    exact (hElement h₁).readMany View.stopsIn_refl View.StopsIn.trans (hSeparator h₂) _ bounds acc
  | across bridge grammar ih => exact fun h => nomatch h

/-- **No cluster is split.**  A grammar of clusters that is built without a bridge stops, whenever
it is read, at a boundary of the text it started on. What it read is made up of the first clusters
of that text as a whole, and the clusters that are read one after the other from what is left are
the others. -/
theorem parse_keeps_clusters (g : Grammar .graphemes α) (hView : g.staysInView = true)
    (text rest : List Char) (value : α) (hDone : g.parse text = .done value rest) :
    ∃ front k, text = front ++ rest ∧ Cluster.isBoundary front rest = true ∧
      front = ((Cluster.segments text).take k).flatten ∧
      Cluster.clusters rest = (Cluster.segments text).drop k := by
  obtain ⟨front, rfl, hBoundary⟩ := g.stopsIn_parse hView text value rest hDone
  refine ⟨front, (Cluster.clusters front).length, rfl, hBoundary, ?_, ?_⟩
  · rw [Cluster.segments_eq_clusters, Cluster.clusters_append hBoundary, List.take_left,
      Cluster.clusters_flatten]
  · rw [Cluster.segments_eq_clusters, Cluster.clusters_append hBoundary, List.drop_left]

/-- Between two flags, in front of a letter. Each flag is two scalars of one class. -/
theorem parse_keeps_clusters_flags :
    let flag : Grammar .graphemes (List Char) := .skipThen (.literal ['🇩', '🇪']) .token
    let text := ['🇩', '🇪', '🇫', '🇷', 'x']
    flag.parse text = .done ['🇫', '🇷'] ['x'] ∧
      ∃ front k, text = front ++ ['x'] ∧ Cluster.isBoundary front ['x'] = true ∧
        front = ((Cluster.segments text).take k).flatten ∧
        Cluster.clusters ['x'] = (Cluster.segments text).drop k := by
  intro flag text
  have hDone : flag.parse text = .done ['🇫', '🇷'] ['x'] := by decide +kernel
  exact ⟨hDone, parse_keeps_clusters flag rfl text ['x'] ['🇫', '🇷'] hDone⟩

end Grammar

end TwoWay
