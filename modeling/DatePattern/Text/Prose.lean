import DatePattern.Text.Basic
import DatePattern.Text.Case

/-!
# Prose

Texts that are shown in documentation. A description for a table stands on one line: each run of
white space becomes one space, and what is too long is cut and ends in three dots. A longer text
loses its indentation: the shortest one of its lines is taken off every line that starts with it.
-/

namespace DatePattern.Text

/-! ## Short descriptions -/

/-- Whether a byte is white space in a description. -/
def isGap (b : UInt8) : Bool := b = 0x20 || b = 0x09 || b = 0x0A || b = 0x0C || b = 0x0D

/-- A text with each run of white space as one space. `inGap` says that the run before has
its space already. -/
def singleSpacedFrom : (inGap : Bool) → Text → Text
  | _, [] => []
  | inGap, b :: rest =>
    if isGap b then
      if inGap then singleSpacedFrom true rest else 0x20 :: singleSpacedFrom true rest
    else b :: singleSpacedFrom false rest

/-- A text with each run of white space as one space. -/
def singleSpaced (text : Text) : Text := singleSpacedFrom false text

/-- The bytes that a description may have. -/
def descriptionLimit : Nat := 200

/-- A text as a short description. The cut is made at a byte, even inside a character. -/
def description (text : Text) : Text :=
  let line := text.singleSpaced
  if descriptionLimit < line.length then line.take (descriptionLimit - 3) ++ "..." else line

/-!
## Indentation

The indentation of a line is its leading spaces and tabs. Blank lines do not count.
-/

/-- Whether a byte belongs to an indentation. -/
def isIndent (b : UInt8) : Bool := b = 0x20 || b = 0x09

/-- The indentation of a line. -/
def indentOf (line : Text) : Text := line.takeWhile isIndent

/-- The first shortest indentation of the lines that are not blank. `found` is that of the
lines before. -/
def shortestIndent (found : Option Text) : List Text → Option Text
  | [] => found
  | line :: rest =>
    if line.isBlank then shortestIndent found rest
    else
      match found with
      | none => shortestIndent (some line.indentOf) rest
      | some indent =>
        let shorter := if line.indentOf.length < indent.length then line.indentOf else indent
        shortestIndent (some shorter) rest

/-- A text without the indentation of its lines and without newlines around it. -/
def dedent (text : Text) : Text :=
  let lines := (text.trimWhile (· = 0x0A)).lines
  let lead := (shortestIndent none lines).getD []
  joinWith "\n" (lines.map fun line => line.withoutLead lead)

end DatePattern.Text
