import TwoWay.Grammar.Repetition

/-!
# Tables

Rows that end with a line end, of cells with commas between them. A cell may be empty, and a row has
at least one cell.
-/

namespace TwoWay.Format

/-- Whether a character may stand in a cell. -/
def isCellChar (c : Char) : Bool := c != ',' && c != '\n'

/-- A cell. -/
def cell : Grammar .chars (List Char) := .run (Test.ofPred isCellChar) .unbounded

/-- Cells with commas between them. -/
def row : Grammar .chars (List (List Char)) := .many cell (.literal [',']) (.orMore 1) .list

/-- Rows, each with its line end. -/
def table : Grammar .chars (List (List (List Char))) :=
  (Repetition.ofElement (.thenSkip row .lineEnd)).grammar

end TwoWay.Format
