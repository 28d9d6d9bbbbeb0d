import DatePattern.Text.Case
import DatePattern.Text.Quoted

/-!
# Blocks of a page

A page is a list of blocks, written one after the other; every block ends with an empty line.
A table without rows is not written at all. In a cell a pipe has a backslash in front.
-/

namespace DatePattern.Docs

/-- A text in backticks; one that holds a backtick has two on each side. -/
def inlineCode (text : Text) : Text :=
  if text.contains 0x60 then "`` " ++ text ++ " ``" else "`" ++ text ++ "`"

/-- A text in bold face. -/
def bold (text : Text) : Text := "**" ++ text ++ "**"

/-- A block of a page. -/
inductive Block where
  /-- The title of the page and what it is about. -/
  | front (title about : Text)
  /-- The remark that the page is not to be edited. -/
  | marker
  | header (level : Nat) (text : Text)
  | paragraph (text : Text)
  | code (language text : Text)
  | bullets (items : List Text)
  | table (header : List Text) (rows : List (List Text))
  deriving DecidableEq, Repr

/-- A cell of a table. -/
def cellText (cell : Text) : Text := cell.replaceByte 0x7C "\\|"

/-- A line of a table. -/
def rowText (cells : List Text) : Text :=
  "| " ++ Text.joinWith " | " (cells.map cellText) ++ " |\n"

/-- The separator below the header of a table. -/
def separatorText (columns : Nat) : Text := rowText (List.replicate columns "---")

/-- A table. -/
def tableText (header : List Text) (rows : List (List Text)) : Text :=
  if rows.isEmpty then []
  else rowText header ++ separatorText header.length ++ rows.flatMap rowText ++ "\n"

/-- A line of a list. -/
def bulletText (item : Text) : Text := "- " ++ item ++ "\n"

/-- A block as it is written. -/
def Block.render : Block → Text
  | .front title about =>
    "---\ntitle: " ++ title.quoted ++ "\ndescription: " ++ about.quoted ++ "\n---\n\n"
  | .marker => "<!-- Code generated by scripts/gendocs. DO NOT EDIT. -->\n\n"
  | .header level text => Text.repeated level 0x23 ++ " " ++ text ++ "\n\n"
  | .paragraph text => text.trim ++ "\n\n"
  | .code language text =>
    "```" ++ language ++ "\n" ++ text.trimRightWhile (· = 0x0A) ++ "\n```\n\n"
  | .bullets items => items.flatMap bulletText ++ "\n"
  | .table head rows => tableText head rows

/-- A page as it is written. -/
def page (blocks : List Block) : Text := blocks.flatMap Block.render

end DatePattern.Docs
