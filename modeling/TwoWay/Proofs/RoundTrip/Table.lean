import TwoWay.Format.Table
import TwoWay.Proofs.RoundTrip.Form

/-!
# Tables and their texts

A table is read from every text that ends with a line feed, and writing it gives the same text
again. Any text falls into lines and a rest without a line feed, and any line into cells, so it is
the text of some rows followed by a rest on which no further row is read. A row on such a rest does
not stand still either: it fails because its line end is missing, and what it read is taken back.

* `IsRow`, `rowText`: rows that can be written, and their texts.
* `exists_pieces`: a text falls into pieces at a character.
* `exists_rows`: a text is the text of some rows and a rest without a line feed.
* `hasForm_table`: rows are written as their lines, and read back from them.
* `table_parse_bijective`: reading and writing tables are inverse to each other.
-/

namespace TwoWay.Format

/-! ## Texts of tables -/

/-- A row has at least one cell, and no cell holds a comma or a line feed. -/
def IsRow (row : List (List Char)) : Prop := row ≠ [] ∧ ∀ cell ∈ row, ',' ∉ cell ∧ '\n' ∉ cell

/-- The cells with commas between them. -/
def rowText (row : List (List Char)) : List Char := [','].intercalate row

/-- The row with its line end. -/
def lineText (row : List (List Char)) : List Char := rowText row ++ ['\n']

/-! ## Every text falls into rows -/

/-- A text falls into pieces that end with a character and hold no other one, and a last piece. -/
theorem exists_pieces (sep : Char) (text : List Char) :
    ∃ (pieces : List (List Char)) (last : List Char),
      text = pieces.flatMap (· ++ [sep]) ++ last ∧ (∀ piece ∈ pieces, sep ∉ piece) ∧
        sep ∉ last := by
  induction text with
  | nil => exact ⟨[], [], rfl, List.forall_mem_nil _, List.not_mem_nil⟩
  | cons c text ih =>
    obtain ⟨pieces, last, hText, hPieces, hLast⟩ := ih
    by_cases hSep : sep = c
    · refine ⟨[] :: pieces, last, ?_, ?_, hLast⟩
      · rw [hText, hSep]
        rfl
      · exact List.forall_mem_cons.2 ⟨List.not_mem_nil, hPieces⟩
    · cases pieces with
      | nil =>
        refine ⟨[], c :: last, by rw [hText]; rfl, List.forall_mem_nil _, ?_⟩
        exact List.not_mem_cons_of_ne_of_not_mem hSep hLast
      | cons piece pieces =>
        obtain ⟨hFirst, hMore⟩ := List.forall_mem_cons.1 hPieces
        refine ⟨(c :: piece) :: pieces, last, by rw [hText]; rfl, ?_, hLast⟩
        exact List.forall_mem_cons.2
          ⟨List.not_mem_cons_of_ne_of_not_mem hSep hFirst, hMore⟩

/-- A line is the text of a row. -/
theorem exists_row {line : List Char} (hLine : '\n' ∉ line) :
    ∃ row, IsRow row ∧ rowText row = line := by
  obtain ⟨cells, last, rfl, hCells, hLast⟩ := exists_pieces ',' line
  simp only [List.mem_append, List.mem_flatMap, not_or, not_exists, not_and] at hLine
  refine ⟨cells ++ [last], ⟨by simp, List.forall_mem_append.2 ⟨fun cell hCell => ?_, ?_⟩⟩,
    intercalate_concat (v := .chars) [','] last cells⟩
  · exact ⟨hCells cell hCell, (hLine.1 cell hCell).1⟩
  · exact List.forall_mem_singleton.2 ⟨hLast, hLine.2⟩

/-- A text is the text of some rows and a rest without a line feed. -/
theorem exists_rows (text : List Char) :
    ∃ (rows : List (List (List Char))) (rest : List Char),
      text = rows.flatMap lineText ++ rest ∧ (∀ row ∈ rows, IsRow row) ∧ '\n' ∉ rest := by
  obtain ⟨lines, rest, rfl, hLines, hRest⟩ := exists_pieces '\n' text
  obtain ⟨rows, hRows, hText⟩ : ∃ rows : List (List (List Char)),
      (∀ row ∈ rows, IsRow row) ∧ rows.flatMap lineText = lines.flatMap (· ++ ['\n']) := by
    induction lines with
    | nil => exact ⟨[], List.forall_mem_nil _, rfl⟩
    | cons line lines ih =>
      obtain ⟨hLine, hMore⟩ := List.forall_mem_cons.1 hLines
      obtain ⟨row, hRow, hText⟩ := exists_row hLine
      obtain ⟨rows, hRows, hTexts⟩ := ih hMore
      refine ⟨row :: rows, List.forall_mem_cons.2 ⟨hRow, hRows⟩, ?_⟩
      rw [List.flatMap_cons, List.flatMap_cons, hTexts, lineText, hText]
  exact ⟨rows, rest, by rw [hText], hRows, hRest⟩

/-! ## Reading and writing rows -/

theorem hasForm_cell :
    cell.HasForm (fun cell => ',' ∉ cell ∧ '\n' ∉ cell) id
      (Test.ofPred (v := .chars) isCellChar).StopsAt := by
  refine (Grammar.hasForm_run (v := .chars) rfl _ rfl).imp ?_ fun _ _ => rfl
  rintro cell ⟨hComma, hFeed⟩
  refine ⟨cell, (textOf_chars cell).symm, Nat.zero_le _, fun c hc => ?_⟩
  have hNotComma : c ≠ ',' := fun h => hComma (h ▸ hc)
  have hNotFeed : c ≠ '\n' := fun h => hFeed (h ▸ hc)
  simp [Test.ofPred, isCellChar, hNotComma, hNotFeed]

/-- A cell stops at a comma and at a line feed. -/
theorem stopsAt_cons {c : Char} (hc : isCellChar c = false) (text : List Char) :
    (Test.ofPred (v := .chars) isCellChar).StopsAt (c :: text) :=
  Test.stopsAt_of_next? (v := .chars) rfl (congrArg Except.ok hc)

/-- The line end of a row is next. -/
def EndsLine (rest : List Char) : Prop := ∃ more, rest = '\n' :: more

theorem hasForm_row : row.HasForm IsRow rowText EndsLine := by
  have hEnds : ∀ rest, EndsLine rest → (Test.ofPred (v := .chars) isCellChar).StopsAt rest ∧
      ∃ failure left, (Grammar.literal [','] : Grammar .chars Unit).parse rest =
        .failed failure left := by
    rintro _ ⟨more, rfl⟩
    exact ⟨stopsAt_cons rfl more, .parse, _, rfl⟩
  have hComma := Grammar.hasText_literal (v := .chars) rfl [',']
  have hRow : row.HasForm _ _ EndsLine :=
    hasForm_cell.separated hComma rfl (fun _ _ _ => ⟨stopsAt_cons rfl _, trivial⟩) hEnds
  refine hRow.imp ?_ fun cells _ => by rw [List.map_id, rowText]
  rintro cells ⟨hSome, hCells⟩
  exact ⟨hSome, Bounds.allows_iff.2 ⟨List.length_pos_iff.2 hSome, rfl⟩, hCells⟩

theorem hasForm_line :
    (Grammar.thenSkip row .lineEnd).HasForm IsRow lineText fun _ => True :=
  hasForm_row.thenSkip (Grammar.hasText_lineEnd rfl) fun rest _ => ⟨rest, rfl⟩

theorem not_raises_line (fault : Fault) : ¬ (Grammar.thenSkip row .lineEnd).Raises fault := by
  rintro ((⟨c, hTest⟩ | hNone) | hNone)
  · cases hTest
  · exact hNone
  · exact hNone

/-- Without a line feed, no row is read: whatever its cells are, the line end is missing. -/
theorem line_fails {text : List Char} (h : '\n' ∉ text) :
    ∃ failure left, (Grammar.thenSkip row .lineEnd).parse text = .failed failure left := by
  cases hRead : (Grammar.thenSkip row .lineEnd).parse text with
  | failed failure left => exact ⟨failure, left, rfl⟩
  | aborted fault =>
    have hRaises := (Grammar.thenSkip row .lineEnd).abortsOnly_parse rfl text fault hRead
    exact absurd hRaises (not_raises_line fault)
  | done value rest =>
    obtain ⟨⟨cells, _⟩, hBoth, -⟩ := Outcome.map_eq_done_iff.1 hRead
    obtain ⟨middle, hCells, hEnd⟩ := Step.andThen_eq_done_iff.1 hBoth
    have hMem : '\n' ∈ middle := by
      rcases readLineEnd_eq_done (v := .chars) hEnd with rfl | rfl
      · exact List.mem_append_left _ (by decide)
      · exact List.mem_append_left _ (by decide)
    exact absurd ((row.advances_parse _ _ _ hCells).mem hMem) h

theorem hasForm_table :
    table.HasForm (fun rows => ∀ row ∈ rows, IsRow row) (fun rows => rows.flatMap lineText)
      fun rest => '\n' ∉ rest :=
  hasForm_line.ofElement rfl (fun _ _ _ => trivial) fun _ hRest => ⟨trivial, line_fails hRest⟩

/-! ## Tables -/

theorem getLast?_flatMap_lineText {rows : List (List (List Char))} (hSome : rows ≠ []) :
    (rows.flatMap lineText).getLast? = some '\n' := by
  obtain ⟨front, row, rfl⟩ := rows.eq_nil_or_concat'.resolve_left hSome
  simp [lineText]

/-- A rest without a line feed is empty where the text ends in a line feed. -/
theorem eq_nil_of_ends {front rest : List Char}
    (hEnd : front ++ rest = [] ∨ (front ++ rest).getLast? = some '\n') (hRest : '\n' ∉ rest) :
    rest = [] := by
  by_contra hSome
  rcases hEnd with hNil | hLast
  · exact hSome (List.append_eq_nil_iff.1 hNil).2
  · rw [List.getLast?_append_of_ne_nil _ hSome] at hLast
    exact hRest (List.mem_of_getLast? hLast)

/-- A text that is read as a table is made up of the lines of its rows. -/
theorem of_parseAll_table {text : List Char} {rows : List (List (List Char))} {rest : List Char}
    (h : table.parseAll text = .done rows rest) :
    text = rows.flatMap lineText ∧ ∀ row ∈ rows, IsRow row := by
  obtain ⟨found, last, rfl, hRows, hLast⟩ := exists_rows text
  rw [Grammar.parseAll, hasForm_table.read found last hRows hLast] at h
  simp only at h
  split at h
  · rename_i hEmpty
    cases h
    rw [List.isEmpty_iff.1 hEmpty, List.append_nil]
    exact ⟨rfl, hRows⟩
  · cases h

theorem not_raises_table (fault : Fault) : ¬ table.Raises fault :=
  not_or.2 ⟨not_raises_line fault, id⟩

/-- **Reading and writing tables are inverse to each other.**  The empty text and the texts that end
in a line feed are read as tables, all others are refused without a fault, and the rows that are
read are written as the text they were read from. Rows of cells without commas and line feeds can be
written, and the text is read as these rows. -/
theorem table_parse_bijective :
    (∀ text : List Char,
      ((∃ rows rest, table.parseAll text = .done rows rest) ↔
        text = [] ∨ text.getLast? = some '\n') ∧
      (∀ fault, table.parseAll text ≠ .aborted fault) ∧
      ∀ rows rest, table.parseAll text = .done rows rest →
        table.printToBuffer rows = .done () text) ∧
    ∀ rows, (∀ row ∈ rows, IsRow row) →
      ∃ text, table.printToBuffer rows = .done () text ∧ table.parseAll text = .done rows [] := by
  refine ⟨fun text => ?_, fun rows hRows =>
    ⟨_, hasForm_table.written rows hRows, hasForm_table.parseAll List.not_mem_nil hRows⟩⟩
  refine ⟨?_, Grammar.parseAll_ne_aborted rfl not_raises_table text, fun rows rest hRead => ?_⟩
  · constructor
    · rintro ⟨rows, rest, hRead⟩
      obtain ⟨rfl, -⟩ := of_parseAll_table hRead
      by_cases hNone : rows = []
      · exact Or.inl (hNone ▸ rfl)
      · exact Or.inr (getLast?_flatMap_lineText hNone)
    · intro hEnd
      obtain ⟨rows, rest, rfl, hRows, hRest⟩ := exists_rows text
      obtain rfl := eq_nil_of_ends hEnd hRest
      rw [List.append_nil]
      exact ⟨rows, [], hasForm_table.parseAll hRest hRows⟩
  · obtain ⟨rfl, hRows⟩ := of_parseAll_table hRead
    exact hasForm_table.written rows hRows

/-- A carriage return belongs to the last cell of its row, and a row may be one empty cell. -/
theorem table_parse_bijective_returns :
    let text := ['a', ',', '\r', '\n', '\n']
    let rows := [[['a'], ['\r']], [[]]]
    table.parseAll text = .done rows [] ∧ table.printToBuffer rows = .done () text ∧
      (∀ row ∈ rows, IsRow row) ∧
      ∃ text, table.printToBuffer rows = .done () text ∧ table.parseAll text = .done rows [] := by
  intro text rows
  have hRead : table.parseAll text = .done rows [] := by decide +kernel
  have hRows : ∀ row ∈ rows, IsRow row := by simp [rows, IsRow]
  exact ⟨hRead, (table_parse_bijective.1 text).2.2 rows [] hRead, hRows,
    table_parse_bijective.2 rows hRows⟩

end TwoWay.Format
