import DatePattern.Docs.Block
import DatePattern.Proofs.Text.Replace
import DatePattern.Proofs.Text.Split

/-!
# Reading a table back

A cell is written with a backslash in front of each of its pipes, and nothing is done to its own
backslashes. A reader that takes a pipe for the end of a cell unless a backslash stands right before
it still gets every cell back. The pipe between two cells has a space before it, so a cell that ends
in a backslash does not hide it; and in a written cell no pipe stands without the backslash that was
put there, so taking one backslash away from each gives the cell, whatever stood before.

- `Table.read?`: reads a table off the front of a text;
- `Table.exists_segments`: a written cell is passed over whole, whatever follows it;
- `Table.cells_joinWith`: the cells of a line are those it was written from;
- `Table.table_reads_back`: the header and the rows of a table are read back.
-/

namespace DatePattern.Docs.Table

/-! ## A reader of tables -/

/-- The segments of a text between its pipes, the first one apart. A pipe with a backslash right
before it belongs to its segment; `escaped` says that the byte before the text is a backslash. -/
def segments : (escaped : Bool) → Text → Text × List Text
  | _, [] => ([], [])
  | escaped, b :: rest =>
    if b = 0x7C ∧ escaped = false then
      ([], (segments false rest).1 :: (segments false rest).2)
    else
      (b :: (segments (b = 0x5C) rest).1, (segments (b = 0x5C) rest).2)

/-- A text without a space at its end, if it has one there. -/
def withoutLastSpace (text : Text) : Text :=
  if text.getLast? = some 0x20 then text.dropLast else text

/-- Segments without a space on either side of each split. -/
def unspaced : Text → List Text → List Text
  | last, [] => [last]
  | segment, next :: rest => withoutLastSpace segment :: unspaced (next.withoutLead " ") rest

/-- The parts of a text between its pipes, without a space on either side of each. -/
def parts (text : Text) : List Text := unspaced (segments false text).1 (segments false text).2

/-- The cells in what stands between the outer pipes of a line. -/
def cells (inside : Text) : List Text :=
  (parts inside).map fun cell => cell.replace "\\|" "|"

/-- The cells of a line that has a pipe at both ends, with a space inside each. -/
def readRow? (line : Text) : Option (List Text) :=
  if 4 ≤ line.length && ("| " : Text).isPrefixOf line && (" |" : Text).isSuffixOf line then
    some (cells ((line.drop 2).take (line.length - 4)))
  else none

/-- Reads the header and the rows of a table off the front of a text: the lines up to an empty one,
without the separator behind the header. -/
def read? (text : Text) : Option (List Text × List (List Text)) :=
  match text.lines.takeWhile (· != []) with
  | header :: _separator :: rows => do
    let header ← readRow? header
    let rows ← rows.mapM readRow?
    return (header, rows)
  | _ => none

/-! ## Cells -/

theorem cellText_cons (b : UInt8) (cell : Text) :
    cellText (b :: cell) = (if b = 0x7C then [0x5C, 0x7C] else [b]) ++ cellText cell := rfl

theorem segments_of_ne {b : UInt8} (other : b ≠ 0x7C) (escaped : Bool) (rest : Text) :
    segments escaped (b :: rest) =
      (b :: (segments (b = 0x5C) rest).1, (segments (b = 0x5C) rest).2) := by
  rw [segments, if_neg fun h => other h.1]

/-- A pipe is passed over together with the backslash in front of it. -/
theorem segments_escaped (escaped : Bool) (rest : Text) :
    segments escaped (0x5C :: 0x7C :: rest) =
      (0x5C :: 0x7C :: (segments false rest).1, (segments false rest).2) := by
  have pipe : segments true (0x7C :: rest) =
      (0x7C :: (segments false rest).1, (segments false rest).2) := by
    rw [segments, if_neg (by decide)]
    rfl
  rw [segments_of_ne (by decide)]
  show (0x5C :: (segments true (0x7C :: rest)).1, (segments true (0x7C :: rest)).2) = _
  rw [pipe]

theorem segments_pipe (rest : Text) :
    segments false (0x7C :: rest) = ([], (segments false rest).1 :: (segments false rest).2) := by
  rw [segments, if_pos ⟨rfl, rfl⟩]

/-- **A written cell has no end of a cell in it.** What follows is read as behind a backslash or
not, depending on how the cell ends. -/
theorem exists_segments (escaped : Bool) (cell : Text) :
    ∃ behind, ∀ rest, segments escaped (cellText cell ++ rest) =
      (cellText cell ++ (segments behind rest).1, (segments behind rest).2) := by
  induction cell generalizing escaped with
  | nil => exact ⟨escaped, fun rest => rfl⟩
  | cons b cell ih =>
    by_cases pipe : b = 0x7C
    · -- the backslash is written first, and behind it the pipe does not count
      obtain ⟨behind, passed⟩ := ih false
      refine ⟨behind, fun rest => ?_⟩
      rw [cellText_cons, if_pos pipe]
      show segments escaped (0x5C :: 0x7C :: (cellText cell ++ rest)) = _
      rw [segments_escaped, passed]
      rfl
    · obtain ⟨behind, passed⟩ := ih (b = 0x5C)
      refine ⟨behind, fun rest => ?_⟩
      rw [cellText_cons, if_neg pipe]
      show segments escaped (b :: (cellText cell ++ rest)) = _
      rw [segments_of_ne pipe, passed]
      rfl

theorem head?_cellText (cell : Text) : (cellText cell).head? ≠ some 0x7C := by
  cases cell with
  | nil => decide
  | cons b cell =>
    rw [cellText_cons]
    split_ifs with pipe
    · exact fun same => absurd (Option.some.inj same) (by decide)
    · exact fun same => pipe (Option.some.inj same)

/-- Taking a backslash away from each pipe gives the cell, also where the cell has backslashes of
its own before a pipe. -/
theorem replace_cellText (cell : Text) : (cellText cell).replace "\\|" "|" = cell := by
  induction cell with
  | nil => rfl
  | cons b cell ih =>
    rw [cellText_cons]
    by_cases pipe : b = 0x7C
    · rw [if_pos pipe]
      show Text.replace ("\\|" ++ cellText cell) "\\|" "|" = _
      rw [Text.replace_append _ _ (by decide), ih, pipe]
      rfl
    · have apart : ¬ ("\\|" : Text) <+: b :: cellText cell := by
        rintro ⟨rest, same⟩
        have second : 0x7C :: rest = cellText cell := (List.cons.inj same).2
        exact head?_cellText cell (by rw [← second]; rfl)
      rw [if_neg pipe, List.singleton_append, Text.replace_cons _ apart, ih]

/-! ## Lines -/

theorem withoutLastSpace_concat (text : Text) : withoutLastSpace (text ++ [0x20]) = text := by
  rw [withoutLastSpace, if_pos List.getLast?_concat, List.dropLast_concat]

theorem withoutLead_space (text : Text) : Text.withoutLead (0x20 :: text) " " = text := rfl

theorem segments_space (escaped : Bool) (rest : Text) :
    segments escaped (0x20 :: rest) = (0x20 :: (segments false rest).1, (segments false rest).2) :=
  segments_of_ne (by decide) escaped rest

theorem parts_cellText (cell : Text) : parts (cellText cell) = [cellText cell] := by
  obtain ⟨behind, passed⟩ := exists_segments false cell
  have alone : segments false (cellText cell) = (cellText cell, []) := by
    simpa [segments] using passed []
  rw [parts, alone]
  rfl

/-- Behind a cell the text is split at the pipe, and the spaces beside it are dropped. The space
before the pipe stands there also if the cell ends in a backslash. -/
theorem parts_append_pipe (cell rest : Text) :
    parts (cellText cell ++ " | " ++ rest) = cellText cell :: parts rest := by
  obtain ⟨behind, passed⟩ := exists_segments false cell
  have split : segments behind (" | " ++ rest) =
      ([0x20], (0x20 :: (segments false rest).1) :: (segments false rest).2) := by
    show segments behind (0x20 :: 0x7C :: 0x20 :: rest) = _
    rw [segments_space, segments_pipe, segments_space]
  rw [parts, List.append_assoc, passed, split, unspaced, withoutLastSpace_concat,
    withoutLead_space]
  rfl

theorem parts_joinWith (first : Text) (rest : List Text) :
    parts (Text.joinWith " | " ((first :: rest).map cellText)) = (first :: rest).map cellText := by
  induction rest generalizing first with
  | nil => exact parts_cellText first
  | cons next rest ih =>
    show parts (cellText first ++ " | " ++ Text.joinWith " | " ((next :: rest).map cellText)) = _
    rw [parts_append_pipe, ih]
    rfl

/-- **The cells of a line** are those it was written from. -/
theorem cells_joinWith {row : List Text} (filled : row ≠ []) :
    cells (Text.joinWith " | " (row.map cellText)) = row := by
  obtain ⟨first, rest, rfl⟩ := List.exists_cons_of_ne_nil filled
  rw [cells, parts_joinWith, List.map_map]
  exact List.map_id'' replace_cellText _

/-- A line of a table, without its line feed. -/
def line (row : List Text) : Text := "| " ++ Text.joinWith " | " (row.map cellText) ++ " |"

theorem readRow?_line {row : List Text} (filled : row ≠ []) :
    readRow? (line row) = some row := by
  generalize joined : Text.joinWith " | " (row.map cellText) = inside
  have length : (line row).length = inside.length + 4 := by
    rw [line, joined, List.length_append, List.length_append]
    show 2 + inside.length + 2 = inside.length + 4
    omega
  have starts : ("| " : Text).isPrefixOf (line row) = true := rfl
  have ends : (" |" : Text).isSuffixOf (line row) = true :=
    List.isSuffixOf_iff_suffix.mpr (List.suffix_append _ _)
  have between : ((line row).drop 2).take ((line row).length - 4) = inside := by
    rw [length, Nat.add_sub_cancel, line, joined, List.append_assoc]
    exact List.take_left
  have long : decide (4 ≤ (line row).length) = true := by
    rw [length]
    exact decide_eq_true (Nat.le_add_left 4 _)
  rw [readRow?, starts, ends, long, between, ← joined, cells_joinWith filled]
  rfl

theorem not_mem_line {row : List Text} (oneLine : ∀ cell ∈ row, 0x0A ∉ cell) :
    0x0A ∉ line row := by
  intro inside
  rw [line, List.mem_append, List.mem_append] at inside
  rcases inside with (inside | inside) | inside
  · exact absurd inside (by decide)
  · rcases Text.mem_joinWith inside with inside | ⟨text, listed, inside⟩
    · exact absurd inside (by decide)
    · obtain ⟨cell, within, rfl⟩ := List.mem_map.mp listed
      rcases Text.mem_of_mem_replaceByte inside with inside | inside
      · exact absurd inside (by decide)
      · exact oneLine cell within inside
  · exact absurd inside (by decide)

/-! ## Tables -/

/-- The lines of a table: the header, the separator and the rows. -/
def tableLines (header : List Text) (rows : List (List Text)) : List Text :=
  line header :: line (List.replicate header.length "---") :: rows.map line

theorem rowText_eq (row : List Text) : rowText row = line row ++ "\n" := by
  rw [rowText, line, List.append_assoc _ (" |" : Text)]
  rfl

theorem tableText_eq (header : List Text) {rows : List (List Text)} (filled : rows ≠ []) :
    tableText header rows = Text.unlines (tableLines header rows) ++ "\n" := by
  have some : rows.isEmpty = false := List.isEmpty_eq_false_iff.mpr filled
  have rowsText : rows.flatMap rowText = rows.flatMap fun row => (line row ++ "\n" : Text) :=
    List.flatMap_congr fun row _ => rowText_eq row
  rw [tableText, some, separatorText, rowsText, rowText_eq, rowText_eq]
  simp [tableLines, Text.unlines, List.flatMap_map]

/-- The lines of a table are read up to the empty one behind it, whatever follows. -/
theorem takeWhile_lines (header : List Text) {rows : List (List Text)} (filled : rows ≠ [])
    (oneLine : ∀ row ∈ header :: rows, ∀ cell ∈ row, 0x0A ∉ cell) (rest : Text) :
    (tableText header rows ++ rest).lines.takeWhile (· != []) = tableLines header rows := by
  have free : ∀ text ∈ tableLines header rows, 0x0A ∉ text := by
    intro text listed
    rw [List.forall_mem_cons] at oneLine
    rw [tableLines, List.mem_cons, List.mem_cons, List.mem_map] at listed
    rcases listed with rfl | rfl | ⟨row, within, rfl⟩
    · exact not_mem_line oneLine.1
    · refine not_mem_line fun cell listed => ?_
      rw [List.eq_of_mem_replicate listed]
      decide
    · exact not_mem_line (oneLine.2 row within)
  have nonempty : [] ∉ tableLines header rows := by
    have starts : ∀ row, line row ≠ [] := fun row => List.cons_ne_nil 0x7C _
    simp [tableLines, starts, Ne.symm (starts _)]
  have below : Text.lines ("\n" ++ rest) = [] :: rest.lines :=
    Text.splitAtByte_append_cons List.not_mem_nil rest
  rw [tableText_eq header filled, List.append_assoc, Text.lines_unlines_append free, below]
  exact (Text.span_until nonempty ([] :: rest.lines) (by simp)).1

theorem mapM_readRow? {rows : List (List Text)} (full : ∀ row ∈ rows, row ≠ []) :
    (rows.map line).mapM readRow? = some rows := by
  induction rows with
  | nil => rfl
  | cons row rows ih =>
    obtain ⟨first, others⟩ := List.forall_mem_cons.mp full
    rw [List.map_cons, List.mapM_cons, readRow?_line first, ih others]
    rfl

/-- **Tables are read back.** A table with a header and rows, none of them without cells and no
cell with a line feed, is read as its header and its rows, whatever else is in the cells and
whatever stands behind the table. -/
theorem table_reads_back (header : List Text) (rows : List (List Text)) (columns : header ≠ [])
    (filled : rows ≠ []) (full : ∀ row ∈ rows, row ≠ [])
    (oneLine : ∀ row ∈ header :: rows, ∀ cell ∈ row, 0x0A ∉ cell) (rest : Text) :
    read? ((Block.table header rows).render ++ rest) = some (header, rows) := by
  rw [read?, Block.render, takeWhile_lines header filled oneLine, tableLines]
  dsimp only
  rw [readRow?_line columns, mapM_readRow? full]
  rfl

/-- Backslashes at the end of a cell and before its pipes, spaces at its ends, empty cells, and a
row longer than the header. -/
theorem table_reads_back_delimiters :
    let header : List Text := ["a|b", "c\\"]
    let rows : List (List Text) := [["\\|", ""], [" ", "|", "\\\\| \\"], [""]]
    header ≠ [] ∧ rows ≠ [] ∧ (∀ row ∈ rows, row ≠ []) ∧
      (∀ row ∈ header :: rows, ∀ cell ∈ row, 0x0A ∉ cell) ∧
      read? ((Block.table header rows).render ++ "## Next") = some (header, rows) := by
  intro header rows
  have columns : header ≠ [] := by decide
  have filled : rows ≠ [] := by decide
  have full : ∀ row ∈ rows, row ≠ [] := by decide
  have oneLine : ∀ row ∈ header :: rows, ∀ cell ∈ row, 0x0A ∉ cell := by decide
  exact ⟨columns, filled, full, oneLine,
    table_reads_back header rows columns filled full oneLine "## Next"⟩

end DatePattern.Docs.Table
