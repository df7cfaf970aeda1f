import VisualNovel.Text.DisplayWidth
import VisualNovel.Text.Trim

/-!
# Tables of text

A table is drawn with lines of ASCII characters. A column is as wide as its widest line and has a
blank on either side; a cell of several lines makes its row higher.
-/

namespace VisualNovel

/-- A table with a heading. -/
structure TextTable where
  /-- The cells of the heading, one for each column. -/
  heading : List String
  /-- The cells of the rows. -/
  rows : List (List String)

namespace TextTable

/-- The lines of a cell. -/
def cellLines (cell : String) : List String :=
  (Text.splitOn '\n' cell.toList).map String.ofList

/-- The columns that a cell takes on a terminal. -/
def cellWidth (cell : String) : Nat :=
  ((cellLines cell).map DisplayWidth.ofString).foldl max 0

/-- The widths of the columns. -/
def widths (table : TextTable) : List Nat :=
  table.rows.foldl (fun widths row => List.zipWith max widths (row.map cellWidth))
    (table.heading.map cellWidth)

/-- A line between rows: its ends, the character that it is made of, and the crossings. -/
def rule (left fill crossing right : String) (widths : List Nat) : String :=
  let segments := widths.map fun width => String.join (List.replicate (width + 2) fill)
  left ++ crossing.intercalate segments ++ right

/-- A text with blanks behind it up to a width. -/
def padded (width : Nat) (text : String) : String :=
  text ++ String.ofList (List.replicate (width - DisplayWidth.ofString text) ' ')

/-- The lines of a row. -/
def rowLines (widths : List Nat) (row : List String) : List String :=
  let cells := row.map cellLines
  let height := (cells.map List.length).foldl max 1
  (List.range height).map fun index =>
    let texts := cells.map fun lines => (lines[index]?).getD ""
    "| " ++ " | ".intercalate (List.zipWith padded widths texts) ++ " |"

/-- The lines of the table. -/
def lines (table : TextTable) : List String :=
  let widths := table.widths
  let edge := rule "+" "-" "+" "+" widths
  let body := (table.rows.map (rowLines widths)).intersperse [rule "|" "-" "+" "|" widths]
  [edge] ++ rowLines widths table.heading ++ [rule "+" "=" "=" "+" widths] ++ body.flatten ++ [edge]

end TextTable

end VisualNovel
