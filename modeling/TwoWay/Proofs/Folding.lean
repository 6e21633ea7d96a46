import TwoWay.Grammar.Repetition
import TwoWay.Proofs.Equivalence
import TwoWay.Proofs.Lockstep

/-!
# Repetitions that fold

A repetition adds the value of every element as soon as it is read, although it may still fail or be
given up. Where it goes depends on the text and never on what was collected, so the values may as
well be kept in a list that is folded when the repetition is done.

* `readMany_collect`: a repetition is one that keeps a list, and then collects the list.
* `Grammar.many_equiv_convert`: so a repetition is a conversion of the one that keeps a list.
* `Repetition.fold_is_conversion`: what a repetition comes to when its fold is set.
-/

namespace TwoWay

section Loop

variable {σ α ρ : Type}

/-- A step runs in lockstep with itself. -/
theorem Step.lockstep_refl (p : Step σ α) : Lockstep Eq Eq p p := by
  rintro s _ rfl
  cases p s with
  | done a s' => exact .done rfl rfl
  | failed failure s' => exact .failed rfl
  | aborted fault => exact .aborted

/-- **Collecting may wait.**  A repetition comes to what the one that keeps the values of its
elements in a list comes to, with the list collected. -/
theorem readMany_collect (size : σ → Nat) (element : Step σ α) (separator : Step σ Unit)
    (bounds : Bounds) (acc : Accumulator α ρ) :
    readMany size element separator bounds acc =
      Step.map acc.collect (readMany size element separator bounds .list) := by
  -- one loop has the list where the other has what is collected from it
  have hLoops : Step.Lockstep Eq (fun values value => acc.collect values = value)
      (readMany size element separator bounds .list)
      (readMany size element separator bounds acc) := by
    refine (Step.lockstep_refl element).readMany (Step.lockstep_refl separator) ?_ rfl ?_
    · rintro s _ s₂ _ rfl rfl
      exact Iff.rfl
    · rintro values _ a _ rfl rfl
      exact acc.collect_concat values a
  funext start
  exact ((Step.lockstep_refl _ start start rfl).map_eq (hLoops start start rfl)
    (fun _ _ _ h h' => h.symm.trans h') fun _ _ h => h).symm

end Loop

namespace Grammar

variable {v : View} {α ρ : Type}

/-- **Every repetition is a conversion.**  It is read as the list of the values of its elements,
which is then collected, and written as the list of its parts. -/
theorem many_equiv_convert (element : Grammar v α) (separator : Grammar v Unit) (bounds : Bounds)
    (acc : Accumulator α ρ) :
    Equiv (many element separator bounds acc)
      (convert acc.collect acc.parts (many element separator bounds .list)) where
  parse_eq text :=
    congrFun (readMany_collect v.size element.parse separator.parse bounds acc) text
  print_eq _ _ := rfl

end Grammar

namespace Repetition

variable {v : View} {α ρ τ : Type}

/-- A repetition that has nothing to write. -/
theorem print_of_parts_nil {repetition : Repetition v α ρ} {value : ρ}
    (hParts : repetition.acc.parts value = []) (buffer : v.Text) :
    repetition.grammar.print value buffer =
      if repetition.bounds.least = 0 then .done () buffer else .failed .print buffer := by
  rw [grammar, Grammar.print, hParts, writeMany]
  split <;> rfl

/-- **A fold is a conversion of the list.**  When a repetition is set to fold the values of its
elements and is told how to take the result apart, it reads and writes like the same repetition
collecting a list, converted by a left fold one way and by the parts the other. Before it is told,
it reads the same and writes nothing, whatever the value, if no element is asked for, and otherwise
fails. -/
theorem fold_is_conversion (repetition : Repetition v α ρ) (initial : τ) (add : τ → α → τ)
    (parts : τ → List α) :
    ∃ folded decomposed : Repetition v α τ,
      Settings.apply? (.cons (.fold initial add) .nil) repetition = .ok folded ∧
      Settings.apply? (.cons (.fold initial add) (.cons (.decompose parts) .nil)) repetition =
        .ok decomposed ∧
      let list : Grammar v (List α) :=
        .many repetition.element repetition.separator repetition.bounds .list
      let converted : Grammar v τ := .convert (List.foldl add initial) parts list
      Grammar.Equiv decomposed.grammar converted ∧
      (∀ text, folded.grammar.parse text = converted.parse text) ∧
      ∀ value buffer, folded.grammar.print value buffer =
        if repetition.bounds.least = 0 then .done () buffer else .failed .print buffer := by
  refine ⟨_, _, rfl, rfl, ?_, ?_, ?_⟩
  · exact Grammar.many_equiv_convert _ _ _ _
  · exact (Grammar.many_equiv_convert _ _ _ (.fold initial add)).parse_eq
  · exact fun value buffer => print_of_parts_nil rfl buffer

-- letters are counted, and the comma behind the last is given back
example : (Grammar.many .token (.literal [',']) .unbounded (.fold 0 fun n _ => n + 1) :
    Grammar .chars Nat).parse ['a', ',', 'b', ','] = .done 2 [','] := by
  decide +kernel

end Repetition

end TwoWay
