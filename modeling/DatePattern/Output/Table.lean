import DatePattern.Output.Basic
import DatePattern.Text.Case
import DatePattern.Text.Width

/-!
# Tables

A table has a header and rows; it is as wide as the longest of them, and missing cells are
empty. In text it is a box in which a cell may take several lines and header cells are in
upper case. In markdown it is a pipe table. A column that no row reaches is aligned to the
right.
-/

namespace DatePattern.Output

/-- A table. -/
structure Table where
  header : List Text
  rows : List (List Text)

namespace Table

/-- A cell as it is laid out: tabs become spaces, carriage returns go. -/
def cell (text : Text) : Text := (text.replaceByte 0x09 "    ").replaceByte 0x0D []

/-- The table with its cells as they are laid out. -/
def laidOut (table : Table) : Table :=
  ⟨table.header.map cell, table.rows.map fun row => row.map cell⟩

/-- The number of columns. -/
def width (table : Table) : Nat :=
  ((table.header :: table.rows).map List.length).foldl max 0

/-- The cell of a row in a column. -/
def cellAt (row : List Text) (column : Nat) : Text := (row[column]?).getD []

/-- Whether some row reaches a column. -/
def isReached (table : Table) (column : Nat) : Bool :=
  table.rows.any fun row => column < row.length

/-! ### Markdown -/

/-- A cell of a pipe table. -/
def pipeCell (text : Text) : Text :=
  " " ++ (text.replaceByte 0x7C "\\|").replaceByte 0x0A "<br/>" ++ " |"

/-- A line of a pipe table. -/
def pipeLine (width : Nat) (row : List Text) : Text :=
  "|" ++ (List.range width).flatMap fun column => pipeCell (cellAt row column)

/-- The mark under the header of a column. -/
def pipeMark (reached : Bool) : Text := if reached then " --- |" else " ---:|"

/-- A table in markdown, nothing when it has no columns. -/
def markdown (source : Table) : Text :=
  let table := source.laidOut
  if table.width = 0 then []
  else
    let marks : Text :=
      "|" ++ (List.range table.width).flatMap fun column => pipeMark (table.isReached column)
    Text.unlines <|
      [pipeLine table.width table.header, marks] ++ table.rows.map (pipeLine table.width)

/-! ### Text -/

/-- The columns of the widest line of a cell. -/
def cellWidth (text : Text) : Nat := (text.lines.map Text.cellWidth).foldl max 0

/-- The columns of the widest cell of a column. -/
def columnWidth (table : Table) (column : Nat) : Nat :=
  ((table.header :: table.rows).map fun row => cellWidth (cellAt row column)).foldl max 0

/-- A border: a line with marks at its ends and between columns. -/
def border (left middle right : Text) (widths : List Nat) : Text :=
  let bar (width : Nat) : Text := Text.joinWith [] (List.replicate (width + 2) "─")
  left ++ Text.joinWith middle (widths.map bar) ++ right

/-- A line of a cell, put at the side of its column. -/
def alignLine (reached : Bool) (width : Nat) (line : Text) : Text :=
  if reached then
    let kept := line.trimRightWhile (· = 0x20)
    kept ++ Text.repeated (width - Text.cellWidth kept) 0x20
  else
    let kept := line.dropWhile (· = 0x20)
    Text.repeated (width - Text.cellWidth kept) 0x20 ++ kept

/-- The lines of a row, each a line of every cell. A row without cells has none. -/
def rowLines (columns : List (Bool × Nat)) (row : List Text) : List Text :=
  let cells : List (List Text) := row.map Text.lines
  let height := (cells.map List.length).foldl max 0
  (List.range height).map fun index =>
    let parts : List Text := columns.mapIdx fun column (reached, width) =>
      let line := (((cells[column]?).getD [])[index]?).getD []
      " " ++ alignLine reached width line ++ " "
    "│" ++ Text.joinWith "│" parts ++ "│"

/-- A table in text, nothing when it has no columns. -/
def text (source : Table) : Text :=
  let table := source.laidOut
  if table.width = 0 then []
  else
    let columns := (List.range table.width).map fun column =>
      (table.isReached column, table.columnWidth column)
    let widths := columns.map Prod.snd
    Text.unlines <|
      [border "┌" "┬" "┐" widths] ++ rowLines columns (table.header.map Text.upper)
        ++ [border "├" "┼" "┤" widths] ++ table.rows.flatMap (rowLines columns)
        ++ [border "└" "┴" "┘" widths]

/-- A table in a shape. -/
def render (table : Table) (shape : Shape) : Text :=
  match shape with
  | .markdown => table.markdown
  | _ => table.text

end Table

end DatePattern.Output
