import DatePattern.Output.Table
import DatePattern.Proofs.Text.Split
import Mathlib.Data.List.Forall2

/-!
# Tables in text

A table in text is a box of lines. What a cell shows does not depend on the other cells: the layout
only puts blanks around it.

- `Table.IsLine`: a line of a box shows texts, one in each column;
- `Table.shownRow`: what a row shows, line by line;
- `Table.Framed`: a box shows a header and rows, in order;
- `Table.forall₂_rowLines`: a row that is laid out shows its own lines;
- `Table.framed_text`: a table in text is a box that shows its header and its rows.
-/

namespace DatePattern.Output.Table

/-- A line of a box shows texts, one in each column, with blanks around them. -/
def IsLine (cells : List Text) (line : Text) : Prop :=
  ∃ parts : List Text, line = "│" ++ Text.joinWith "│" parts ++ "│" ∧
    List.Forall₂ (fun cell part => ∃ left right,
      part = Text.repeated (left + 1) 0x20 ++ cell ++ Text.repeated (right + 1) 0x20) cells parts

/-- What a cell shows for a byte: four blanks for a tab, and nothing for a carriage return. -/
def shownByte (b : UInt8) : Text := if b = 0x09 then "    " else if b = 0x0D then [] else [b]

/-- The lines that a cell shows, without the blanks at their ends. -/
def shownLines (text : Text) : List Text :=
  (Text.lines (text.flatMap shownByte)).map (Text.trimRightWhile (· = 0x20))

/-- The lines that a row shows, as many as its highest cell has. -/
def shownRow (row : List Text) : List (List Text) :=
  (List.range ((row.map fun text => (shownLines text).length).foldl max 0)).map fun k =>
    row.map fun text => ((shownLines text)[k]?).getD []

/-- A box shows a header and, under a border, rows in order. -/
def Framed (header : List Text) (rows : List (List Text)) (box : Text) : Prop :=
  ∃ (widths : List Nat) (head body : List Text),
    box = Text.unlines ([border "┌" "┬" "┐" widths] ++ head ++ [border "├" "┼" "┤" widths] ++ body
      ++ [border "└" "┴" "┘" widths]) ∧
    List.Forall₂ IsLine (shownRow header) head ∧
    List.Forall₂ IsLine (rows.flatMap shownRow) body

/-! ## One row -/

theorem cell_eq (text : Text) : cell text = text.flatMap shownByte := by
  rw [cell, Text.replaceByte, Text.replaceByte, List.flatMap_assoc]
  refine List.flatMap_congr fun b _ => ?_
  rw [shownByte]
  split_ifs with tab carriage
  · rfl
  · rw [carriage]
    rfl
  · rw [List.flatMap_singleton, if_neg carriage]

/-- A text without blanks. -/
def IsSolid (text : Text) : Prop := 0x20 ∉ text

instance (text : Text) : Decidable (IsSolid text) := inferInstanceAs (Decidable (0x20 ∉ text))

/-- A line of a column that rows reach keeps its blanks in front; one without blanks can be at either
side. -/
theorem exists_alignLine {reached : Bool} {line : Text} (aligned : reached = true ∨ IsSolid line)
    (width : Nat) : ∃ left right, " " ++ alignLine reached width line ++ " "
      = Text.repeated (left + 1) 0x20 ++ line.trimRightWhile (· = 0x20)
        ++ Text.repeated (right + 1) 0x20 := by
  have behind (n : Nat) : Text.repeated n 0x20 ++ " " = Text.repeated (n + 1) 0x20 :=
    List.replicate_succ'.symm
  cases reached with
  | true =>
    refine ⟨0, width - Text.cellWidth (line.trimRightWhile (· = 0x20)), ?_⟩
    rw [alignLine, if_pos rfl, ← behind (width - _)]
    simp only [List.append_assoc]
    rfl
  | false =>
    have solid := aligned.resolve_left Bool.false_ne_true
    have kept : line.dropWhile (· = 0x20) = line := by
      cases line with
      | nil => rfl
      | cons b rest =>
        have other : b ≠ 0x20 := fun same => solid (same ▸ List.mem_cons_self)
        exact List.dropWhile_cons_of_neg (by simpa using other)
    have whole : line.trimRightWhile (· = 0x20) = line := by
      refine Text.trimRightWhile_of_getLast? fun b last => ?_
      have other : b ≠ 0x20 := fun same => solid (same ▸ List.mem_of_getLast? last)
      simpa using other
    refine ⟨width - Text.cellWidth line, 0, ?_⟩
    rw [whole, alignLine, if_neg Bool.false_ne_true, kept, ← List.append_assoc]
    rfl

/-- A row that is laid out shows its own lines. -/
theorem forall₂_rowLines {columns : List (Bool × Nat)} {row : List Text}
    (length : columns.length = row.length)
    (aligned : ∀ column ∈ columns, column.1 = true ∨
      ∀ text ∈ row, IsSolid (text.flatMap shownByte)) :
    List.Forall₂ IsLine (shownRow row) (rowLines columns (row.map cell)) := by
  have height : ((row.map cell).map Text.lines).map List.length
      = row.map fun text => (shownLines text).length := by
    simp only [List.map_map, Function.comp_def, cell_eq, shownLines, List.length_map]
  rw [shownRow, rowLines]
  simp only [height]
  rw [List.forall₂_map_left_iff, List.forall₂_map_right_iff, List.forall₂_same]
  intro k _
  refine ⟨_, rfl, List.forall₂_iff_get.mpr ⟨by simp [length], fun i hi hi' => ?_⟩⟩
  have inRow : i < row.length := by simpa using hi
  have inColumns : i < columns.length := length ▸ inRow
  have lines : (((row.map cell).map Text.lines)[i]?).getD []
      = Text.lines ((row.get ⟨i, inRow⟩).flatMap shownByte) := by
    simp [inRow, cell_eq]
  have shown : ((shownLines (row.get ⟨i, inRow⟩))[k]?).getD []
      = Text.trimRightWhile (· = 0x20)
          (((Text.lines ((row.get ⟨i, inRow⟩).flatMap shownByte))[k]?).getD []) := by
    rw [shownLines, List.getElem?_map]
    cases (Text.lines ((row.get ⟨i, inRow⟩).flatMap shownByte))[k]? <;> rfl
  simp only [List.get_eq_getElem, List.getElem_mapIdx, List.getElem_map] at lines shown ⊢
  rw [lines, shown]
  refine exists_alignLine ((aligned _ (List.getElem_mem inColumns)).imp_right fun solid => ?_) _
  intro blank
  cases found : (Text.lines (row[i].flatMap shownByte))[k]? with
  | none =>
    rw [found] at blank
    exact List.not_mem_nil blank
  | some line =>
    rw [found] at blank
    exact solid _ (List.getElem_mem inRow)
      (Text.mem_of_mem_splitAtByte (List.mem_of_getElem? found) blank)

/-! ## The box -/

section

variable {header : List Text} {rows : List (List Text)}

theorem width_laidOut (full : ∀ row ∈ rows, row.length = header.length) :
    (laidOut ⟨header, rows⟩).width = header.length := by
  have steps : ∀ rows : List (List Text), (∀ row ∈ rows, row.length = header.length) →
      (rows.map List.length).foldl max header.length = header.length := by
    intro rows full
    induction rows with
    | nil => rfl
    | cons row rows ih =>
      obtain ⟨first, others⟩ := List.forall_mem_cons.mp full
      rw [List.map_cons, List.foldl_cons, first, Nat.max_self]
      exact ih others
  have lengths : (rows.map fun row => row.map cell).map List.length = rows.map List.length := by
    simp only [List.map_map, Function.comp_def, List.length_map]
  rw [laidOut, width, List.map_cons, List.foldl_cons, lengths, List.length_map, Nat.zero_max]
  exact steps rows full

theorem isReached_laidOut {row : List Text} (listed : row ∈ rows) {column : Nat}
    (inside : column < row.length) : (laidOut ⟨header, rows⟩).isReached column = true := by
  refine List.any_eq_true.mpr ⟨row.map cell, List.mem_map_of_mem listed, ?_⟩
  simpa using inside

/-- **A table in text** is a box that shows the header in upper case and every row, in order. -/
theorem framed_text {title : List Text} (named : (header.map cell).map Text.upper = title.map cell)
    (some : header ≠ []) (solid : ∀ text ∈ title, IsSolid (text.flatMap shownByte))
    (full : ∀ row ∈ rows, row.length = header.length) :
    Framed title rows (text ⟨header, rows⟩) := by
  have columns : (laidOut ⟨header, rows⟩).width ≠ 0 := by
    rw [width_laidOut full]
    exact fun none => some (List.length_eq_zero_iff.mp none)
  have titled : title.length = header.length := by
    simpa using (congrArg List.length named).symm
  rw [text, if_neg columns, width_laidOut full]
  refine ⟨_, _, _, rfl, ?_, ?_⟩
  · show List.Forall₂ _ _ (rowLines _ ((header.map cell).map Text.upper))
    rw [named]
    exact forall₂_rowLines (by simp [titled]) fun column _ => .inr solid
  · show List.Forall₂ _ _ ((rows.map fun row => row.map cell).flatMap _)
    rw [List.flatMap_map]
    refine List.rel_flatMap (R := fun row other => row = other ∧ row ∈ rows) ?_ ?_
    · exact List.forall₂_same.mpr fun row listed => ⟨rfl, listed⟩
    · rintro row _ ⟨rfl, listed⟩
      refine forall₂_rowLines (by simp [full row listed]) fun column mem => .inl ?_
      obtain ⟨index, inside, rfl⟩ := List.mem_map.mp mem
      exact isReached_laidOut listed (full row listed ▸ List.mem_range.mp inside)

end

end DatePattern.Output.Table
