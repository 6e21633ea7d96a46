import TwoWay.Proofs.Reading.Run
import TwoWay.Proofs.Reading.Suffix
import TwoWay.Proofs.Writing.Repetition

/-!
# Repetitions that are read back

A repetition reads back what it wrote when its element and its separator do so in the places where
they stand: an element before the end or before a separator and another element, a separator before
an element.

* `Grammar.Separable`: the element and the separator are read back in these places.
* `Grammar.Separable.readMore_intercalate`: the loop reads texts with separators between, from any
  count on.
* `Grammar.readBack_many`: so a repetition reads back what it wrote, if the number of elements meets
  the bounds.
* `Format.separable_cell`: the cells of a table are read back between commas.
-/

namespace TwoWay

variable {v : View} {α ρ : Type}

/-! ## Elements and separators -/

theorem WritableFront.length_eq {write : α → Outcome v.Text Unit} {elements : List α}
    {texts : List v.Text} (front : WritableFront write elements texts)
    (hAll : ∀ a ∈ elements, ∃ text, write a = .done () text) : texts.length = elements.length := by
  refine Nat.le_antisymm front.length_le ((front.le_length_iff (Nat.le_refl _)).2 ?_)
  rwa [List.take_length]

/-- Where every element can be written, the front is the whole list. -/
theorem WritableFront.exists_of_forall {write : α → Outcome v.Text Unit} {elements : List α}
    (hAll : ∀ a ∈ elements, ∃ text, write a = .done () text) :
    ∃ texts, WritableFront write elements texts ∧ texts.length = elements.length := by
  obtain ⟨texts, front⟩ : ∃ texts, WritableFront write elements texts :=
    exists_of_ne_aborted fun a ha fault hFault => by
      obtain ⟨text, hDone⟩ := hAll a ha
      rw [hFault] at hDone
      cases hDone
  exact ⟨texts, front, front.length_eq hAll⟩

theorem WritableFront.of_forall {write : α → Outcome v.Text Unit} {form : α → v.Text}
    {elements : List α} (hAll : ∀ a ∈ elements, write a = .done () (form a)) :
    WritableFront write elements (elements.map form) := by
  induction elements with
  | nil => exact .all
  | cons a elements ih =>
    obtain ⟨hDone, hMore⟩ := List.forall_mem_cons.1 hAll
    exact .more hDone (ih hMore)

namespace Grammar

/-- An element and a separator with a text between elements that are read back where they stand.

* `separator_written`: the separator is written as its text.
* `element_read`: what is written for a value is read as the value, at the end of a text and before
  a separator and what is written for another value.
* `separator_read`: the text of the separator is read before what is written for a value.
* `ends`: at the end of a text the separator fails, or it is read and no element is read there, nor
  is any value written as nothing.
* `moves`: what is written for a value and the text of the separator are not both empty. -/
structure Separable (element : Grammar v α) (separator : Grammar v Unit) (sep : v.Text) : Prop where
  separator_written : separator.printToBuffer () = .done () sep
  element_read : ∀ a text rest, element.printToBuffer a = .done () text →
    (rest = [] ∨ ∃ b next more, element.printToBuffer b = .done () next ∧
      rest = sep ++ (next ++ more)) →
    element.parse (text ++ rest) = .done a rest
  separator_read : ∀ b next more, element.printToBuffer b = .done () next →
    separator.parse (sep ++ (next ++ more)) = .done () (next ++ more)
  ends : (∃ failure left, separator.parse [] = .failed failure left) ∨
    (∃ rest, separator.parse [] = .done () rest) ∧
      (∃ failure left, element.parse [] = .failed failure left) ∧
      ∀ a text, element.printToBuffer a = .done () text → text ≠ []
  moves : ∀ a text, element.printToBuffer a = .done () text → text ++ sep ≠ []

variable {element : Grammar v α} {separator : Grammar v Unit} {sep : v.Text} {bounds : Bounds}

/-- At the end of a text that was written, the last element ends the repetition: the separator fails
there, or the element after it does. -/
theorem Separable.readMore_last (h : Separable element separator sep) {add : ρ → α → ρ}
    {start mark text : v.Text} {count : Nat} {value : ρ} {a : α}
    (hDone : element.printToBuffer a = .done () text) (hRoom : bounds.hasRoom count = true) :
    readMore v.size element.parse separator.parse bounds add start count value mark text =
      settle bounds start (count + 1) (add value a) [] := by
  have hElement := h.element_read a text [] hDone (Or.inl rfl)
  rw [List.append_nil] at hElement
  rcases h.ends with ⟨failure, left, hFailed⟩ | ⟨⟨rest, hSeparator⟩, ⟨failure, left, hEnd⟩, hSome⟩
  · exact readMore_of_separator_failed hRoom hElement hFailed
  · obtain rfl : rest = [] := List.suffix_nil.1 (separator.advances_parse _ _ _ hSeparator)
    have hLess : v.size [] < v.size text := v.size_pos_of_ne_nil (hSome a text hDone)
    rw [readMore_of_round hRoom hElement hSeparator hLess, readMore_of_failed hEnd]

/-- An element before a separator and another element makes a round. -/
theorem Separable.readMore_round (h : Separable element separator sep) {add : ρ → α → ρ}
    {start mark text next more : v.Text} {count : Nat} {value : ρ} {a b : α}
    (hDone : element.printToBuffer a = .done () text)
    (hNext : element.printToBuffer b = .done () next) (hRoom : bounds.hasRoom count = true) :
    readMore v.size element.parse separator.parse bounds add start count value mark
        (text ++ (sep ++ (next ++ more))) =
      readMore v.size element.parse separator.parse bounds add start (count + 1) (add value a)
        (sep ++ (next ++ more)) (next ++ more) := by
  have hElement := h.element_read a text (sep ++ (next ++ more)) hDone
    (Or.inr ⟨b, next, more, hNext, rfl⟩)
  have hSeparator := h.separator_read b next more hNext
  have hLess : v.size (next ++ more) < v.size (text ++ (sep ++ (next ++ more))) := by
    have hMoves := v.size_pos_of_ne_nil (h.moves a text hDone)
    rw [← List.append_assoc, v.size_append (text ++ sep)]
    omega
  exact readMore_of_round hRoom hElement hSeparator hLess

/-- **The loop reads what was written.**  From any count on, texts of elements with separators
between are read as the values they were written for, up to the end. -/
theorem Separable.readMore_intercalate (h : Separable element separator sep) {elements : List α}
    {texts : List v.Text} (front : WritableFront element.printToBuffer elements texts)
    (hAll : ∀ a ∈ elements, ∃ text, element.printToBuffer a = .done () text)
    (add : ρ → α → ρ) (start : v.Text) :
    ∀ (count : Nat) (value : ρ) (mark : v.Text), elements ≠ [] →
      bounds.isWithin (count + elements.length) = true →
      readMore v.size element.parse separator.parse bounds add start count value mark
          (sep.intercalate texts) =
        settle bounds start (count + elements.length) (elements.foldl add value) [] := by
  induction front with
  | all => exact fun count value mark hSome => absurd rfl hSome
  | @stop a elements failure left hFailed => simp [hFailed] at hAll
  | @more a elements text texts hDone front ih =>
    intro count value mark _ hWithin
    rw [List.length_cons, ← Nat.add_assoc, Nat.add_right_comm] at hWithin ⊢
    have hRoom : bounds.hasRoom count = true := by
      rw [← Bounds.isWithin_succ]
      exact Bounds.isWithin_mono (Nat.le_add_right _ _) hWithin
    cases front with
    | all =>
      rw [List.intercalate_singleton]
      exact h.readMore_last hDone hRoom
    | @stop b more failure left hFailed => simp [hFailed] at hAll
    | @more b elements next texts hNext front =>
      have hRest : ∀ c ∈ b :: elements, ∃ text, element.printToBuffer c = .done () text :=
        fun c hc => hAll c (List.mem_cons_of_mem a hc)
      rw [List.intercalate_cons_cons, List.append_assoc, intercalate_cons_eq,
        h.readMore_round hDone hNext hRoom, ← intercalate_cons_eq]
      exact ih hRest (count + 1) (add value a) _ (by simp) hWithin

end Grammar

/-! ## Runs and cells -/

/-- A run is written as itself, if its tokens pass and their number meets the bounds. -/
theorem writeRun_eq_done {test : Test v} {bounds : Bounds} {run text : v.Text}
    (h : writeRun test bounds run [] = .done () text) :
    text = run ∧ ∃ tokens, v.textOf tokens = run ∧ (∀ token ∈ tokens, test token = .ok true) ∧
      bounds.allows tokens.length = true := by
  unfold writeRun at h
  split at h
  · rename_i tokens rest hRun
    split at h
    · rename_i hWhole
      obtain ⟨hEmpty, hCount⟩ := Bool.and_eq_true_iff.1 hWhole
      obtain rfl : rest = [] := List.isEmpty_iff.1 hEmpty
      have hTokens := takeRun_eq_done hRun
      rw [List.append_nil] at hTokens
      cases h
      exact ⟨rfl, tokens, hTokens.symm, takeRun_accepts hRun, hCount⟩
    · cases h
  · cases h
  · cases h

namespace Format

theorem textOf_chars (text : List Char) : View.chars.textOf text = text :=
  List.flatMap_singleton' text

theorem textOf_bytes (bytes : List UInt8) : View.bytes.textOf bytes = bytes :=
  List.flatMap_singleton' bytes

/-- A cell is written as itself, if all its characters may stand in a cell. -/
theorem printToBuffer_cell {value text : List Char}
    (h : cell.printToBuffer value = .done () text) :
    text = value ∧ ∀ c ∈ value, Test.ofPred (v := .chars) isCellChar c = .ok true := by
  have hRun : writeRun (v := .chars) (Test.ofPred isCellChar) .unbounded value [] =
    .done () text := h
  obtain ⟨rfl, tokens, hTokens, hAccepts, -⟩ := writeRun_eq_done hRun
  rw [textOf_chars] at hTokens
  exact ⟨rfl, hTokens ▸ hAccepts⟩

/-- Cells are read back between commas. -/
theorem separable_cell : Grammar.Separable cell (.literal [',']) [','] where
  separator_written := rfl
  element_read := by
    intro value text rest hDone hRest
    obtain ⟨rfl, hCell⟩ := printToBuffer_cell hDone
    -- a comma or nothing follows, and neither goes on with a cell
    have hStop : ∀ (c : Char) (after : List Char), View.chars.next? rest = some (c, after) →
        Test.ofPred (v := .chars) isCellChar c = .ok false := by
      rintro c after hNext
      rcases hRest with rfl | ⟨b, next, more, -, rfl⟩
      · cases hNext
      · cases hNext
        rfl
    have hRun := takeRun_append (v := .chars) rfl hCell hStop
    rw [textOf_chars] at hRun
    change readRun (v := .chars) (Test.ofPred isCellChar) .unbounded (text ++ rest) = _
    rw [readRun, show Bounds.unbounded.most = none from rfl, hRun]
    exact congrArg (Outcome.done · rest) (textOf_chars text)
  separator_read := fun b next more _ => rfl
  ends := Or.inl ⟨.parse, [], rfl⟩
  moves := fun value text _ => by simp

end Format

/-! ## Repetitions -/

namespace Grammar

variable {element : Grammar v α} {separator : Grammar v Unit} {sep : v.Text} {bounds : Bounds}
  {values : List α} {texts : List v.Text}

/-- Elements that can all be written are written with the text of the separator between them. -/
theorem printToBuffer_of_front (hSeparator : separator.printToBuffer () = .done () sep)
    (front : WritableFront element.printToBuffer values texts)
    (hAll : ∀ a ∈ values, ∃ text, element.printToBuffer a = .done () text)
    (hCount : bounds.allows values.length = true) :
    (many element separator bounds .list).printToBuffer values =
      .done () (sep.intercalate texts) := by
  obtain ⟨hLeast, hWithin⟩ := Bounds.allows_iff.1 hCount
  have hLength := front.length_eq hAll
  change writeMany element.print (separator.print ()) bounds values [] = _
  by_cases hNone : texts = []
  · subst hNone
    obtain rfl : values = [] := List.length_eq_zero_iff.1 hLength.symm
    have hZero : bounds.least = 0 := Nat.le_zero.1 hLeast
    rw [writeMany, if_pos hZero]
    rfl
  · rw [writeMany_of_front element.appends_print (separator.appends_print ()) front hNone
      fun _ => hSeparator, hLength, if_pos ⟨Or.inr hLeast, hWithin⟩]

theorem Separable.parse_intercalate (h : Separable element separator sep)
    (front : WritableFront element.printToBuffer values texts)
    (hAll : ∀ a ∈ values, ∃ text, element.printToBuffer a = .done () text)
    (hCount : bounds.allows values.length = true)
    (hNone : values = [] → ∃ failure left, element.parse [] = .failed failure left) :
    (many element separator bounds .list).parse (sep.intercalate texts) = .done values [] := by
  obtain ⟨hLeast, hWithin⟩ := Bounds.allows_iff.1 hCount
  change readMore v.size element.parse separator.parse bounds _ _ 0 _ _ _ = _
  by_cases hEmpty : values = []
  · obtain ⟨failure, left, hFailed⟩ := hNone hEmpty
    subst hEmpty
    obtain rfl : texts = [] := List.length_eq_zero_iff.1 (front.length_eq hAll)
    rw [List.intercalate_nil, readMore_of_failed hFailed]
    exact settle_eq_done_iff.2 ⟨hLeast, rfl, rfl⟩
  · rw [← Nat.zero_add values.length] at hWithin hLeast
    rw [h.readMore_intercalate front hAll _ _ 0 _ _ hEmpty hWithin]
    exact settle_eq_done_iff.2 ⟨hLeast, Accumulator.collect_list values, rfl⟩

/-- **A repetition reads back what it wrote.**  Let an element and a separator be read back where
they stand. Then values that can be written, as many as the bounds allow, are written with
separators between, and the whole of that text is read as these values again. No values at all are
read back as such if no element is read at the end of a text. -/
theorem readBack_many (h : Separable element separator sep) (bounds : Bounds) (values : List α)
    (hAll : ∀ a ∈ values, ∃ text, element.printToBuffer a = .done () text)
    (hCount : bounds.allows values.length = true)
    (hNone : values = [] → ∃ failure left, element.parse [] = .failed failure left) :
    ∃ text, (many element separator bounds .list).printToBuffer values = .done () text ∧
      (many element separator bounds .list).parseAll text = .done values [] := by
  obtain ⟨texts, front⟩ : ∃ texts, WritableFront element.printToBuffer values texts :=
    WritableFront.exists_of_ne_aborted fun a ha fault hFault => by
      obtain ⟨text, hDone⟩ := hAll a ha
      rw [hFault] at hDone
      cases hDone
  refine ⟨sep.intercalate texts, printToBuffer_of_front h.separator_written front hAll hCount, ?_⟩
  rw [parseAll, h.parse_intercalate front hAll hCount hNone]
  rfl

/-- A row of two cells, the second of them empty. -/
theorem readBack_many_cells :
    Separable Format.cell (.literal [',']) [','] ∧
      (∀ a ∈ [['a', 'b'], []], ∃ text, Format.cell.printToBuffer a = .done () text) ∧
      (Bounds.orMore 1).allows [['a', 'b'], []].length = true ∧
      ∃ text, Format.row.printToBuffer [['a', 'b'], []] = .done () text ∧
        Format.row.parseAll text = .done [['a', 'b'], []] [] := by
  have hAll : ∀ a ∈ [['a', 'b'], []], ∃ text, Format.cell.printToBuffer a = .done () text :=
    List.forall_mem_cons.2 ⟨⟨['a', 'b'], by decide +kernel⟩,
      List.forall_mem_singleton.2 ⟨[], by decide +kernel⟩⟩
  have hCount : (Bounds.orMore 1).allows [['a', 'b'], []].length = true := rfl
  exact ⟨Format.separable_cell, hAll, hCount,
    readBack_many Format.separable_cell _ _ hAll hCount fun h => by cases h⟩

end Grammar

end TwoWay
