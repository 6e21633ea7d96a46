import TwoWay.Format.Table
import TwoWay.Proofs.Writing.Append

/-!
# What a repetition writes

How a repetition is written is settled by its elements one by one: by the longest front of them that
can be written on their own, by whether the separator can be written, and by the bounds.

* `WritableFront`: the texts of that front; `WritableFront.le_length_iff`: it is the longest.
* `writeMore_of_front`, `writeMany_of_front`: the loop writes the front with separators between, and
  then holds its length against the bounds.
* `Grammar.print_many`: the five ways a repetition of grammars is written or refused.
-/

namespace TwoWay

variable {v : View} {α ρ : Type}

/-! ## The front of a list that can be written -/

/-- The texts of the elements at the front of a list, up to the end of the list or to an element
that cannot be written. -/
inductive WritableFront (write : α → Outcome v.Text Unit) : List α → List v.Text → Prop
  | all : WritableFront write [] []
  | stop {a : α} {elements : List α} {failure : Failure} {left : v.Text}
      (hFailed : write a = .failed failure left) : WritableFront write (a :: elements) []
  | more {a : α} {elements : List α} {text : v.Text} {texts : List v.Text}
      (hDone : write a = .done () text) (front : WritableFront write elements texts) :
      WritableFront write (a :: elements) (text :: texts)

namespace WritableFront

variable {write : α → Outcome v.Text Unit} {elements : List α} {texts : List v.Text}

theorem length_le (front : WritableFront write elements texts) :
    texts.length ≤ elements.length := by
  induction front with
  | all => exact Nat.le_refl _
  | stop hFailed => exact Nat.zero_le _
  | more hDone front ih => exact Nat.succ_le_succ ih

/-- As many elements as a front has texts can be written, and no more. -/
theorem le_length_iff (front : WritableFront write elements texts) :
    ∀ {m : Nat}, m ≤ elements.length →
      (m ≤ texts.length ↔ ∀ a ∈ elements.take m, ∃ text, write a = .done () text) := by
  induction front with
  | all =>
    intro m hm
    simpa using hm
  | @stop a elements failure left hFailed =>
    intro m hm
    cases m with
    | zero => simp
    | succ m => simp [hFailed]
  | @more a elements text texts hDone front ih =>
    intro m hm
    cases m with
    | zero => simp
    | succ m =>
      have hRest := ih (Nat.le_of_succ_le_succ hm)
      rw [List.length_cons, Nat.succ_le_succ_iff, hRest, List.take_succ_cons]
      simp [hDone]

/-- Elements that can be written or not, without a fault, have a front. -/
theorem exists_of_ne_aborted (h : ∀ a ∈ elements, ∀ fault, write a ≠ .aborted fault) :
    ∃ texts, WritableFront write elements texts := by
  induction elements with
  | nil => exact ⟨[], .all⟩
  | cons a elements ih =>
    cases hWrite : write a with
    | done _ text =>
      obtain ⟨texts, front⟩ := ih fun b hb => h b (List.mem_cons_of_mem a hb)
      exact ⟨text :: texts, .more hWrite front⟩
    | failed failure left => exact ⟨[], .stop hWrite⟩
    | aborted fault => exact absurd hWrite (h a List.mem_cons_self fault)

end WritableFront

/-! ## The loop -/

theorem intercalate_cons_eq (sep text : v.Text) (texts : List v.Text) :
    sep.intercalate (text :: texts) = text ++ texts.flatMap (sep ++ ·) := by
  induction texts generalizing text with
  | nil => simp
  | cons next texts ih =>
    rw [List.intercalate_cons_cons, ih, List.flatMap_cons, List.append_assoc, List.append_assoc]

section Loop

open Step (Appends)

variable {element : α → Step v.Text Unit} {separator : Step v.Text Unit} {bounds : Bounds}
  {elements : List α} {texts : List v.Text} {sep : v.Text}

theorem truncate_zero (text : v.Text) : v.truncate 0 text = [] := v.truncate_append [] text

/-- The loop ends well when it stopped at an element or has reached the least number, and was at no
time above the greatest one. -/
theorem writeMore_of_front (hElement : ∀ a, Appends (element a)) (hSeparator : Appends separator)
    (front : WritableFront (fun a => element a []) elements texts)
    (hSep : elements ≠ [] → separator [] = .done () sep) :
    ∀ (count : Nat) (written : v.Text), bounds.isWithin count = true →
      writeMore element separator bounds 0 count elements written =
        if (texts.length < elements.length ∨ bounds.least ≤ count + texts.length) ∧
            bounds.isWithin (count + texts.length) = true then
          .done () (written ++ texts.flatMap (sep ++ ·))
        else .failed .print [] := by
  induction front with
  | all =>
    intro count written hWithin
    simp only [writeMore, truncate_zero]
    simp [hWithin]
  | @stop a elements failure left hFailed =>
    intro count written hWithin
    simp only [writeMore, hSeparator.of_done (hSep (by simp)), (hElement a).of_failed hFailed,
      v.retract_append]
    simp [hWithin]
  | @more a elements text texts hDone front ih =>
    intro count written hWithin
    have hSepDone := hSep (by simp)
    simp only [writeMore, hSeparator.of_done hSepDone, (hElement a).of_done hDone, truncate_zero]
    have hLength : count + (text :: texts).length = count + 1 + texts.length := by
      rw [List.length_cons]
      omega
    by_cases hNext : bounds.isWithin (count + 1) = true
    · rw [if_pos hNext, ih (fun _ => hSepDone) _ _ hNext, hLength]
      simp only [List.length_cons, Nat.add_lt_add_iff_right, List.flatMap_cons, List.append_assoc]
    · have hAbove : ¬ bounds.isWithin (count + 1 + texts.length) = true :=
        fun h => hNext (Bounds.isWithin_mono (Nat.le_add_right _ _) h)
      rw [if_neg hNext, hLength, if_neg fun h => hAbove h.2]

theorem writeMany_cons_of_done {a : α} {text : v.Text} (hDone : element a [] = .done () text) :
    writeMany element separator bounds (a :: elements) [] =
      if bounds.isWithin 1 = true then writeMore element separator bounds 0 1 elements text
      else .failed .print [] := by
  simp only [writeMany, hDone, View.size_nil, View.retract, truncate_zero]

/-- Nothing is written when the first element cannot be. -/
theorem writeMany_cons_of_failed {a : α} (hElement : Appends (element a)) {failure : Failure}
    {left : v.Text} (hFailed : element a [] = .failed failure left) :
    writeMany element separator bounds (a :: elements) [] = .failed .print [] := by
  simp only [writeMany, hElement.of_failed hFailed]

theorem writeMany_of_front (hElement : ∀ a, Appends (element a)) (hSeparator : Appends separator)
    (front : WritableFront (fun a => element a []) elements texts) (hSome : texts ≠ [])
    (hSep : 2 ≤ elements.length → separator [] = .done () sep) :
    writeMany element separator bounds elements [] =
      if (texts.length < elements.length ∨ bounds.least ≤ texts.length) ∧
          bounds.isWithin texts.length = true then
        .done () (sep.intercalate texts)
      else .failed .print [] := by
  cases front with
  | all => exact absurd rfl hSome
  | stop hFailed => exact absurd rfl hSome
  | @more a elements text texts hDone front =>
    have hSepDone (h : elements ≠ []) : separator [] = .done () sep :=
      hSep (Nat.succ_le_succ (List.length_pos_iff.2 h))
    rw [writeMany_cons_of_done hDone, intercalate_cons_eq]
    by_cases hFirst : bounds.isWithin 1 = true
    · rw [if_pos hFirst, writeMore_of_front hElement hSeparator front hSepDone 1 text hFirst,
        Nat.add_comm 1]
      simp only [List.length_cons, Nat.add_lt_add_iff_right]
    · have hAbove : ¬ bounds.isWithin (texts.length + 1) = true :=
        fun h => hFirst (Bounds.isWithin_mono (Nat.le_add_left _ _) h)
      rw [if_neg hFirst, if_neg fun h => hAbove h.2]

/-- With a separator that cannot be written, there is no way past the first of several elements. -/
theorem writeMany_of_separator_failed (hElement : ∀ a, Appends (element a))
    (hSeparator : Appends separator) (front : WritableFront (fun a => element a []) elements texts)
    (hSeveral : 2 ≤ elements.length) {failure : Failure} {left : v.Text}
    (hFailed : separator [] = .failed failure left) :
    writeMany element separator bounds elements [] = .failed .print [] := by
  cases front with
  | all => simp at hSeveral
  | @stop a elements failure left hStop => exact writeMany_cons_of_failed (hElement a) hStop
  | @more a elements text texts hDone front =>
    rw [writeMany_cons_of_done hDone]
    cases elements with
    | nil => simp at hSeveral
    | cons b elements =>
      simp only [writeMore, hSeparator.of_failed hFailed, truncate_zero, ite_self]

end Loop

/-! ## Grammars -/

namespace Grammar

theorem print_many_eq_behind {element : Grammar v α} {separator : Grammar v Unit} {bounds : Bounds}
    {acc : Accumulator α ρ} {value : ρ} {elements : List α} (hParts : acc.parts value = elements)
    (buffer : v.Text) :
    (many element separator bounds acc).print value buffer =
      (writeMany element.print (separator.print ()) bounds elements []).behind buffer := by
  subst hParts
  exact (many element separator bounds acc).appends_print value buffer

/-- **What a repetition writes.**  Elements that can be written or not have a longest front that can
be written, and for that front:

* no elements are written as nothing if none are needed;
* nothing is written when the first element cannot be, or when there are several elements and the
  separator cannot be;
* otherwise, where the front ends before the elements do, it is written with separators between,
  unless it is longer than the bounds allow: the least number does not matter;
* otherwise all elements are written with separators between, if their number meets the bounds.

Whatever is not written leaves the buffer as it was. -/
theorem print_many (element : Grammar v α) (separator : Grammar v Unit) (bounds : Bounds)
    (acc : Accumulator α ρ) (value : ρ) (elements : List α) (hParts : acc.parts value = elements)
    (buffer : v.Text) :
    ((∀ a ∈ elements, ∀ fault, element.printToBuffer a ≠ .aborted fault) →
      ∃ texts, WritableFront element.printToBuffer elements texts) ∧
    ∀ texts, WritableFront element.printToBuffer elements texts →
      (elements.length = 0 →
        (many element separator bounds acc).print value buffer =
          if bounds.least = 0 then .done () buffer else .failed .print buffer) ∧
      (1 ≤ elements.length → texts.length = 0 →
        (many element separator bounds acc).print value buffer = .failed .print buffer) ∧
      (2 ≤ elements.length → (∃ failure left, separator.printToBuffer () = .failed failure left) →
        (many element separator bounds acc).print value buffer = .failed .print buffer) ∧
      (∀ sep, separator.printToBuffer () = .done () sep →
        1 ≤ texts.length → texts.length < elements.length →
        (many element separator bounds acc).print value buffer =
          if bounds.isWithin texts.length = true then .done () (buffer ++ sep.intercalate texts)
          else .failed .print buffer) ∧
      (∀ sep, (2 ≤ elements.length → separator.printToBuffer () = .done () sep) →
        1 ≤ elements.length → texts.length = elements.length →
        (many element separator bounds acc).print value buffer =
          if bounds.allows elements.length = true then .done () (buffer ++ sep.intercalate texts)
          else .failed .print buffer) := by
  refine ⟨WritableFront.exists_of_ne_aborted, fun texts front => ?_⟩
  have hElement := element.appends_print
  have hSeparator := separator.appends_print ()
  rw [print_many_eq_behind hParts]
  refine ⟨fun hNone => ?_, fun hSome hStuck => ?_, fun hSeveral hFailed => ?_,
    fun sep hSep hFront hEnd => ?_, fun sep hSep hSome hAll => ?_⟩
  · rw [List.length_eq_zero_iff.1 hNone, writeMany]
    by_cases hLeast : bounds.least = 0
    · rw [if_pos hLeast, if_pos hLeast]
      exact (Step.appends_pure buffer).symm
    · rw [if_neg hLeast, if_neg hLeast]
      rfl
  · cases front with
    | all => simp at hSome
    | stop hFailed => rw [writeMany_cons_of_failed (hElement _) hFailed, Outcome.behind]
    | more hDone front => simp at hStuck
  · obtain ⟨failure, left, hFailed⟩ := hFailed
    rw [writeMany_of_separator_failed hElement hSeparator front hSeveral hFailed, Outcome.behind]
  · have hTexts : texts ≠ [] := List.length_pos_iff.1 hFront
    rw [writeMany_of_front hElement hSeparator front hTexts fun _ => hSep]
    simp only [hEnd, true_or, true_and]
    split <;> rfl
  · have hTexts : texts ≠ [] := List.length_pos_iff.1 (hAll ▸ hSome)
    rw [writeMany_of_front hElement hSeparator front hTexts hSep]
    simp only [hAll, Nat.lt_irrefl, false_or, ← Bounds.allows_iff]
    split <;> rfl

/-- Two cells are written behind a buffer although the third, one more than there may be, cannot
be. -/
theorem print_many_cells :
    WritableFront Format.cell.printToBuffer [['a'], ['b'], [',']] [['a'], ['b']] ∧
      (many Format.cell (.literal [',']) (.exactly 2) .list).print [['a'], ['b'], [',']] ['>'] =
        .done () ['>', 'a', ',', 'b'] := by
  have hStuck : Format.cell.printToBuffer [','] = .failed .print [] := by decide +kernel
  have front : WritableFront Format.cell.printToBuffer [['a'], ['b'], [',']] [['a'], ['b']] :=
    .more (by decide +kernel) (.more (by decide +kernel) (.stop hStuck))
  have cells := (print_many Format.cell (.literal [',']) (.exactly 2) .list
    [['a'], ['b'], [',']] _ rfl ['>']).2 _ front
  exact ⟨front, cells.2.2.2.1 [','] (by decide) (by decide) (by decide)⟩

end Grammar

end TwoWay
