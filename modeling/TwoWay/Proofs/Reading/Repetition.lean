import TwoWay.Format.Table
import TwoWay.Proofs.Reading.Suffix

/-!
# What a repetition reads

The chain of a repetition of grammars settles what the repetition comes to, for every text
(`Grammar.parse_many`). Grammars only move forward, so a round leaves no less than there was
exactly when it leaves as many bytes as there were (`Grammar.stalls_iff_standsStill`), and the bytes
are all that has to be compared.
-/

namespace TwoWay

namespace Grammar

variable {v : View} {α ρ : Type}

/-- In some round of the chain the element and the separator are both read and as many bytes are
left as before. -/
def StandsStill (element : Grammar v α) (separator : Grammar v Unit) (bounds : Bounds)
    (start : v.Text) : Prop :=
  ∃ pos after, Chain.HasRound element.parse separator.parse bounds start pos after ∧
    v.size after = v.size pos

theorem size_le_of_hasRound {element : Grammar v α} {separator : Grammar v Unit} {bounds : Bounds}
    {start pos after : v.Text}
    (h : Chain.HasRound element.parse separator.parse bounds start pos after) :
    v.size after ≤ v.size pos := by
  cases h with
  | intro chain hRoom hElement hSeparator =>
    have hNext := element.advances_parse _ _ _ hElement
    have hAfter := separator.advances_parse _ _ _ hSeparator
    exact View.size_le_of_suffix (hAfter.trans hNext)

theorem stalls_iff_standsStill {element : Grammar v α} {separator : Grammar v Unit}
    {bounds : Bounds} {start : v.Text} :
    Chain.Stalls v.size element.parse separator.parse bounds start ↔
      StandsStill element separator bounds start := by
  constructor
  · rintro ⟨pos, after, hRound, hLe⟩
    exact ⟨pos, after, hRound, Nat.le_antisymm (size_le_of_hasRound hRound) hLe⟩
  · rintro ⟨pos, after, hRound, hEq⟩
    exact ⟨pos, after, hRound, Nat.le_of_eq hEq.symm⟩

/-- **What a repetition reads.**  Let its chain stop after some elements. If their number meets the
bounds, the values of the elements are collected from the first to the last and the rest starts
where the last of them ended, before the separator that may have been read after it. If there are
too few, the repetition fails and all of the text is left. A round that stands still is reported
instead of either, also one that was the last the bounds leave room for, and a fault of the element
or the separator ends the repetition. -/
theorem parse_many (element : Grammar v α) (separator : Grammar v Unit) (bounds : Bounds)
    (acc : Accumulator α ρ) (start : v.Text) :
    (∀ value rest, (many element separator bounds acc).parse start = .done value rest ↔
      ¬ StandsStill element separator bounds start ∧
        ∃ values, Chain.Stops element.parse separator.parse bounds start values rest ∧
          bounds.allows values.length = true ∧ values.foldl acc.add acc.initial = value) ∧
    (∀ failure left, (many element separator bounds acc).parse start = .failed failure left ↔
      (failure = .parse ∧ left = start) ∧ ¬ StandsStill element separator bounds start ∧
        ∃ values mark, Chain.Stops element.parse separator.parse bounds start values mark ∧
          values.length < bounds.least) ∧
    (∀ fault, (many element separator bounds acc).parse start = .aborted fault ↔
      StandsStill element separator bounds start ∧ fault = .noProgress ∨
        ¬ StandsStill element separator bounds start ∧
          Chain.Breaks element.parse separator.parse bounds start fault) := by
  rw [← stalls_iff_standsStill]
  exact ⟨fun value rest => readMany_eq_done_iff, fun failure left => readMany_eq_failed_iff,
    fun fault => readMany_eq_aborted_iff⟩

-- the comma behind the second cell is read and given back
example : (many Format.cell (.literal [',']) (.exactly 2) .list).parse ['a', ',', 'b', ',', ','] =
    .done [['a'], ['b']] [',', ','] := by
  decide +kernel

-- the second cell stands still, and there may be no third
example : (many (.optional Format.cell) (.always ()) (.exactly 2) .list).parse ['a'] =
    .aborted .noProgress := by
  decide +kernel

end Grammar

end TwoWay
