import Mathlib.Data.List.Sort
import TwoWay.Format.Collections
import TwoWay.Proofs.RoundTrip.Form
import TwoWay.Proofs.RoundTrip.Number

/-!
# Sets of integers

Integers with commas between them are collected one at a time, each in its place or not at all. What
has been collected so far is therefore always strictly ascending and has the integers so far as its
members, and there is one such list. It does not matter in which order the integers come and how
often, and what is written is one text for each set.

* `pairwise_insertAscending`: what is collected stays ascending.
* `collect_ascending_eq_iff`: what is collected is the ascending list of the members.
* `hasForm_int`: integers are written as they are shown.
* `commaText`: integers as they are shown, with commas between them.
* `Format.intSet_canonical`: what is read and written.
-/

namespace TwoWay

/-! ## Ascending lists -/

theorem pairwise_insertAscending {members : List Int} (h : members.Pairwise (· < ·)) (n : Int) :
    (insertAscending members n).Pairwise (· < ·) := by
  induction members with
  | nil => exact List.pairwise_singleton _ n
  | cons m members ih =>
    obtain ⟨hLeast, hMembers⟩ := List.pairwise_cons.1 h
    unfold insertAscending
    split
    · rename_i hLess
      refine List.pairwise_cons.2 ⟨List.forall_mem_cons.2 ⟨hLess, fun k hk => ?_⟩, h⟩
      exact Int.lt_trans hLess (hLeast k hk)
    · split
      · exact h
      · refine List.pairwise_cons.2 ⟨fun k hk => ?_, ih hMembers⟩
        obtain rfl | hk := mem_insertAscending.1 hk
        · omega
        · exact hLeast k hk

theorem pairwise_collect_ascending (ns : List Int) :
    (Accumulator.ascending.collect ns).Pairwise (· < ·) := by
  induction ns using List.reverseRecOn with
  | nil => exact .nil
  | append_singleton ns n ih =>
    rw [Accumulator.collect_concat]
    exact pairwise_insertAscending ih n

theorem mem_collect_ascending {ns : List Int} {n : Int} :
    n ∈ Accumulator.ascending.collect ns ↔ n ∈ ns := by
  induction ns using List.reverseRecOn with
  | nil => exact Iff.rfl
  | append_singleton ns m ih =>
    rw [Accumulator.collect_concat]
    refine mem_insertAscending.trans ?_
    rw [ih, List.mem_append, List.mem_singleton, or_comm]

/-- What is collected is the one ascending list with the members. -/
theorem collect_ascending_eq_iff {ns set : List Int} :
    Accumulator.ascending.collect ns = set ↔
      set.Pairwise (· < ·) ∧ ∀ n, n ∈ set ↔ n ∈ ns := by
  constructor
  · rintro rfl
    exact ⟨pairwise_collect_ascending ns, fun n => mem_collect_ascending⟩
  · rintro ⟨hSet, hMembers⟩
    exact (pairwise_collect_ascending ns).eq_of_mem_iff hSet fun n =>
      mem_collect_ascending.trans (hMembers n).symm

/-! ## Integers with commas between them -/

section Forms

open Grammar (HasForm HasText)

/-- Integers are written as they are shown, and read back in front of anything but a digit. -/
theorem hasForm_int (type : IntType) {v : View} (hv : v.hasCharacters = true) :
    (Grammar.number (.int type) hv).HasForm type.InRange (fun n => v.spell (toString n).toList)
      fun rest => ∀ c, c.isDigit = true → ¬ v.spell [c] <+: rest where
  written := fun _ hRange => writeNumber_int hRange []
  read := by
    intro n rest hRange hRest
    obtain ⟨negative, digits, hFront, hNe, hSign, rfl⟩ := numeralFront_toString hv n hRest
    exact (readNumber_int_of_front hv hFront).1
      ⟨hNe, fun hNegative => hRange.exists_signed (hSign hNegative), hRange⟩

/-- Integers as they are shown, with commas between them. -/
def commaText (ns : List Int) : List Char :=
  [','].intercalate (ns.map fun n => (toString n).toList)

theorem hasForm_commaText (type : IntType) :
    (Grammar.many (.number (.int type) rfl) (.literal [',']) .unbounded .list :
      Grammar .chars (List Int)).HasForm (fun ns => ∀ n ∈ ns, type.InRange n) commaText
      (· = []) := by
  have hInt := hasForm_int type (v := .chars) rfl
  have hComma := Grammar.hasText_literal (v := .chars) rfl [',']
  have hNext : ∀ (n : Int) (rest : List Char), type.InRange n →
      (∀ c, c.isDigit = true → ¬ [c] <+: [','] ++ ((toString n).toList ++ rest)) ∧ True := by
    refine fun n rest _ => ⟨fun c hDigit hFront => ?_, trivial⟩
    obtain ⟨rfl, -⟩ := List.cons_prefix_cons.1 hFront
    cases hDigit
  have hEnd (c : Char) : ¬ [c] <+: [] := fun hFront =>
    List.cons_ne_nil c [] (List.prefix_nil.1 hFront)
  refine hInt.separated_unbounded hComma rfl hNext ?_ ?_
  · rintro _ rfl
    exact ⟨fun c _ => hEnd c, .parse, [], rfl⟩
  · rintro _ rfl
    have hFront : View.chars.NumeralFront [] false [] [] :=
      ⟨rfl, List.forall_mem_nil _, fun _ => hEnd '-', fun c _ => hEnd c⟩
    exact ⟨.parse, [], (readNumber_int_of_front rfl hFront).2 fun hNames => hNames.ne_nil rfl⟩

end Forms

/-! ## The format -/

namespace Format

/-- **A set of integers has one text.**  The values of the type in a list, as they are shown and
with commas between them, are read as the strictly ascending list of the members. Lists with the
same members, in any order and as often as they like, are read alike. The ascending list is written
with every member once and in order, and that text is read back as it. The empty set is the empty
text. -/
theorem intSet_canonical (type : IntType) :
    (∀ ns : List Int, (∀ n ∈ ns, type.InRange n) →
      ∃ set : List Int, set.Pairwise (· < ·) ∧ (∀ n, n ∈ set ↔ n ∈ ns) ∧
        (intSet type).parseAll (commaText ns) = .done set [] ∧
        (intSet type).printToBuffer set = .done () (commaText set) ∧
        (intSet type).parseAll (commaText set) = .done set []) ∧
    (∀ ns ms : List Int, (∀ n ∈ ns, type.InRange n) → (∀ n, n ∈ ns ↔ n ∈ ms) →
      (intSet type).parseAll (commaText ns) = (intSet type).parseAll (commaText ms)) ∧
    (intSet type).printToBuffer [] = .done () [] ∧ (intSet type).parseAll [] = .done [] [] := by
  have hForm := hasForm_commaText type
  have hRead {ns : List Int} (hRange : ∀ n ∈ ns, type.InRange n) :
      (intSet type).parseAll (commaText ns) = .done (Accumulator.ascending.collect ns) [] :=
    hForm.collected_parseAll .ascending rfl hRange
  refine ⟨fun ns hRange => ?_, fun ns ms hRange hSame => ?_, rfl, hRead (List.forall_mem_nil _)⟩
  · have hSet := pairwise_collect_ascending ns
    have hRange' : ∀ n ∈ Accumulator.ascending.collect ns, type.InRange n :=
      fun n hn => hRange n (mem_collect_ascending.1 hn)
    have hAgain : Accumulator.ascending.collect (Accumulator.ascending.collect ns) =
        Accumulator.ascending.collect ns := collect_ascending_eq_iff.2 ⟨hSet, fun n => Iff.rfl⟩
    exact ⟨_, hSet, fun n => mem_collect_ascending, hRead hRange,
      hForm.collected_written .ascending hRange', (hRead hRange').trans (by rw [hAgain])⟩
  · have hRange' : ∀ m ∈ ms, type.InRange m := fun m hm => hRange m ((hSame m).2 hm)
    have hCollect : Accumulator.ascending.collect ns = Accumulator.ascending.collect ms :=
      collect_ascending_eq_iff.2 ⟨pairwise_collect_ascending ms,
        fun n => mem_collect_ascending.trans (hSame n).symm⟩
    rw [hRead hRange, hRead hRange', hCollect]

/-- Two lists of the members `-128` and `5`, and the text of their set. -/
theorem intSet_canonical_reordered :
    (intSet (.signed .w8)).parseAll ['5', ',', '-', '1', '2', '8', ',', '5'] =
        (intSet (.signed .w8)).parseAll ['-', '1', '2', '8', ',', '5'] ∧
      (intSet (.signed .w8)).printToBuffer [-128, 5] =
        .done () ['-', '1', '2', '8', ',', '5'] := by
  have hRange : ∀ n ∈ [(5 : Int), -128, 5], (IntType.signed .w8).InRange n :=
    fun n hn => IntType.contains_iff_inRange.1 (List.all_eq_true.1 rfl n hn)
  have hText : commaText [5, -128, 5] = ['5', ',', '-', '1', '2', '8', ',', '5'] := by
    decide +kernel
  have hText' : commaText [-128, 5] = ['-', '1', '2', '8', ',', '5'] := by decide +kernel
  obtain ⟨hEach, hAlike, -⟩ := intSet_canonical (.signed .w8)
  rw [← hText, ← hText']
  refine ⟨hAlike [5, -128, 5] [-128, 5] hRange (by simp [or_comm]), ?_⟩
  obtain ⟨set, hSet, hMembers, -, hWritten, -⟩ := hEach [5, -128, 5] hRange
  have hTwo : [-128, 5] = set := by
    refine List.Pairwise.eq_of_mem_iff (by decide) hSet fun n => ?_
    rw [hMembers]
    simp [or_comm]
  rwa [← hTwo] at hWritten

end Format

end TwoWay
