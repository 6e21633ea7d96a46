import TwoWay.Proofs.Equivalence
import TwoWay.Proofs.Reading.Rollback

/-!
# Common fronts

A choice between two sequences that start with the same grammar does the common front a second time
when the first sequence fails behind it. It may as well be made behind the front: the first sequence
goes all the way back before the second one starts, so the front comes to the same both times.

* `Step.orElse_andThen`: two steps behind a common front, if the front and the first of them restore.
* `Step.Appends.restores`: writings restore too, so one law serves reading and writing.
* `Grammar.orElse_factors`: the three ways to put one grammar after another.
-/

namespace TwoWay

/-! ## Steps -/

namespace Step

variable {σ α β γ : Type} {failure : Failure}

theorem orElse_map (f : α → β) (p q : Step σ α) :
    orElse (map f p) (map f q) = map f (orElse p q) := by
  funext s
  cases hFirst : p s with
  | done a s' => simp only [orElse, map, hFirst, Outcome.map]
  | failed found s' => simp only [orElse, map, hFirst, Outcome.map]
  | aborted fault => simp only [orElse, map, hFirst, Outcome.map]

/-- **A choice behind a common front.**  The second sequence starts where the first one did, so its
front ends where the front of the first one ended, and that is where the first side of a choice made
there goes back to. -/
theorem orElse_andThen {undo : σ → σ → σ} {p : Step σ α} {q : Step σ β} (hp : Restores failure p)
    (hq : Restores failure q) (hUndo : ∀ s a s₁, p s = .done a s₁ → undo s s₁ = s)
    (r : Step σ β) : orElse (andThen undo p q) (andThen undo p r) = andThen undo p (orElse q r) := by
  funext s
  cases hFront : p s with
  | done a s₁ =>
    cases hFirst : q s₁ with
    | done b s₂ => simp only [orElse, andThen, hFront, hFirst]
    | failed found s₂ =>
      obtain ⟨-, rfl⟩ := hq s₁ found s₂ hFirst
      have hBack := hUndo s a s₂ hFront
      simp only [orElse, andThen, hFront, hFirst, hBack]
    | aborted fault => simp only [orElse, andThen, hFront, hFirst]
  | failed found s₁ =>
    obtain ⟨-, rfl⟩ := hp s found s₁ hFront
    simp only [orElse, andThen, hFront]
  | aborted fault => simp only [orElse, andThen, hFront]

/-- The same with another value made of the values of both parts. -/
theorem orElse_map_andThen {undo : σ → σ → σ} {p : Step σ α} {q : Step σ β}
    (hp : Restores failure p) (hq : Restores failure q)
    (hUndo : ∀ s a s₁, p s = .done a s₁ → undo s s₁ = s) (r : Step σ β) (f : α × β → γ) :
    orElse (map f (andThen undo p q)) (map f (andThen undo p r)) =
      map f (andThen undo p (orElse q r)) := by
  rw [orElse_map, orElse_andThen hp hq hUndo]

/-- A writing that fails leaves the buffer as it was. -/
theorem Appends.restores {A : Type} {p : Step (List A) Unit} (hp : Appends p) :
    Restores .print p :=
  fun _ _ _ hFailed => hp.eq_of_refused hFailed

end Step

/-! ## Grammars -/

namespace Grammar

variable {v : View} {α β : Type}

/-- Taking back what was written behind a buffer gives the buffer. -/
theorem retract_print (g : Grammar v α) (value : α) (buffer : v.Text) (done : Unit)
    (written : v.Text) (h : g.print value buffer = .done done written) :
    v.retract buffer written = buffer := by
  obtain ⟨text, rfl⟩ := (g.appends_print value).prefix_of_done h
  exact v.retract_append buffer text

theorem parse_factors {γ : Type} (a : Grammar v α) (b c : Grammar v β) (f : α × β → γ) :
    Step.orElse (Step.map f (Step.andThen v.restart a.parse b.parse))
        (Step.map f (Step.andThen v.restart a.parse c.parse)) =
      Step.map f (Step.andThen v.restart a.parse (Step.orElse b.parse c.parse)) :=
  Step.orElse_map_andThen a.restores_parse b.restores_parse (fun _ _ _ _ => rfl) c.parse f

theorem print_factors (a : Grammar v α) (b c : Grammar v β) (first : α) (second : β) :
    Step.orElse ((Step.andThen v.retract (a.print first) (b.print second)).map fun _ => ())
        ((Step.andThen v.retract (a.print first) (c.print second)).map fun _ => ()) =
      (Step.andThen v.retract (a.print first)
        (Step.orElse (b.print second) (c.print second))).map fun _ => () :=
  Step.orElse_map_andThen (a.appends_print first).restores (b.appends_print second).restores
    (a.retract_print first) (c.print second) _

theorem equiv_pair_orElse (a : Grammar v α) (b c : Grammar v β) :
    Equiv (orElse (pair a b) (pair a c)) (pair a (orElse b c)) where
  parse_eq := congrFun (Step.orElse_andThen a.restores_parse b.restores_parse
    (fun _ _ _ _ => rfl) c.parse)
  print_eq value := congrFun (print_factors a b c value.1 value.2)

theorem equiv_skipThen_orElse (a : Grammar v Unit) (b c : Grammar v β) :
    Equiv (orElse (skipThen a b) (skipThen a c)) (skipThen a (orElse b c)) where
  parse_eq := congrFun (parse_factors a b c Prod.snd)
  print_eq value := congrFun (print_factors a b c () value)

theorem equiv_thenSkip_orElse (a : Grammar v α) (b c : Grammar v Unit) :
    Equiv (orElse (thenSkip a b) (thenSkip a c)) (thenSkip a (orElse b c)) where
  parse_eq := congrFun (parse_factors a b c Prod.fst)
  print_eq value := congrFun (print_factors a b c value ())

/-- A grammar that is only read, without its value. -/
def valueless (g : Grammar v α) : Grammar v Unit := map (fun _ => ()) g

theorem parse_thenSkip_valueless (a : Grammar v α) (b c : Grammar v β) (text : v.Text) :
    (orElse (thenSkip a b.valueless) (thenSkip a c.valueless)).parse text =
      (thenSkip a (orElse b c).valueless).parse text := by
  have hChoice : Step.orElse b.valueless.parse c.valueless.parse = (orElse b c).valueless.parse :=
    Step.orElse_map (fun _ => ()) b.parse c.parse
  change _ = Step.map Prod.fst (Step.andThen v.restart a.parse (orElse b c).valueless.parse) text
  rw [← hChoice, ← parse_factors]
  rfl

/-- **A choice may be made behind a common front.**  A choice between two sequences with the same
front and the sequence of the front and the choice read the same from every text and write the same
behind every buffer, faults included, whether the values of both parts are kept or only that of one
of them. Where they are only read, the part whose value is not kept may have any value. -/
theorem orElse_factors :
    (∀ (a : Grammar v α) (b c : Grammar v β),
      Equiv (orElse (pair a b) (pair a c)) (pair a (orElse b c))) ∧
    (∀ (a : Grammar v Unit) (b c : Grammar v β),
      Equiv (orElse (skipThen a b) (skipThen a c)) (skipThen a (orElse b c))) ∧
    (∀ (a : Grammar v α) (b c : Grammar v Unit),
      Equiv (orElse (thenSkip a b) (thenSkip a c)) (thenSkip a (orElse b c))) ∧
    (∀ (a : Grammar v α) (b c : Grammar v β) (text : v.Text),
      (orElse (skipThen a.valueless b) (skipThen a.valueless c)).parse text =
        (skipThen a.valueless (orElse b c)).parse text) ∧
    (∀ (a : Grammar v α) (b c : Grammar v β) (text : v.Text),
      (orElse (thenSkip a b.valueless) (thenSkip a c.valueless)).parse text =
        (thenSkip a (orElse b c).valueless).parse text) :=
  ⟨equiv_pair_orElse, equiv_skipThen_orElse, equiv_thenSkip_orElse,
    fun a b c => (equiv_skipThen_orElse a.valueless b c).parse_eq, parse_thenSkip_valueless⟩

end Grammar

end TwoWay
