import DatePattern.Text.Basic
import DatePattern.Text.Width

/-!
# Output

How results are written: as text for people, as markdown or as JSON, the pieces that reports in
markdown are made of, and the layout that a style gives a text.
-/

namespace DatePattern.Output

/-!
## Modes

The mode `auto`, and no mode at all, depend on whether the output is a terminal. A mode with any
other name is written as text.
-/

/-- A mode by its name. -/
structure Mode where
  name : Text
  deriving DecidableEq, Repr

/-- The shape that a mode comes to. -/
inductive Shape where
  | text
  | markdown
  | json
  deriving DecidableEq, Repr

namespace Mode

/-- The mode that depends on the terminal. -/
def auto : Mode := ⟨"auto"⟩

/-- Results for people. -/
def text : Mode := ⟨"text"⟩

/-- Results as markdown. -/
def markdown : Mode := ⟨"markdown"⟩

/-- Results as JSON. -/
def json : Mode := ⟨"json"⟩

/-- The mode in force: `auto` and no mode are text on a terminal and markdown elsewhere. -/
def effective (mode : Mode) (terminal : Bool) : Mode :=
  if mode.name.isEmpty || mode = auto then if terminal then text else markdown else mode

/-- The shape of a mode in force. -/
def shape (mode : Mode) : Shape :=
  if mode = json then .json else if mode = markdown then .markdown else .text

end Mode

/-! ## Markdown -/

/-- Why a header cannot be written. -/
inductive HeaderFault where
  /-- Its level is below zero. -/
  | negativeLevel
  deriving DecidableEq, Repr

/-- The wording of a header fault. -/
def HeaderFault.message : HeaderFault → Text
  | .negativeLevel => "strings: negative Repeat count"

/-- The level of a header. -/
def levelOf (level : Int) : Except HeaderFault Nat :=
  if level < 0 then .error .negativeLevel else .ok level.toNat

/-- A header of a level. -/
def header (level : Nat) (text : Text) : Text := Text.repeated level 0x23 ++ " " ++ text

/-- A fenced block of code; line feeds at its end are dropped. -/
def codeBlock (language code : Text) : Text :=
  "```" ++ language ++ "\n" ++ code.trimRightWhile (· = 0x0A) ++ "\n```"

/-- A list item with a bold key. -/
def keyValue (key value : Text) : Text := "- **" ++ key ++ "**: " ++ value

/-!
## Styled text off a terminal

Where no colours are shown a style still lays a text out: a tab becomes four spaces, and the
lines of a text with several lines get the same width.
-/

/-- Four spaces. -/
def tabSpaces : Text := "    "

/-- A line with spaces after it up to a width. -/
def padLine (width : Nat) (line : Text) : Text :=
  line ++ Text.repeated (width - line.lineWidth) 0x20

/-- A text as a style lays it out off a terminal. -/
def styled (text : Text) : Text :=
  let lines := ((text.replaceByte 0x09 tabSpaces).replace "\r\n" "\n").lines
  match lines with
  | [line] => line
  | _ =>
    let widest := (lines.map Text.lineWidth).foldl max 0
    Text.joinWith "\n" (lines.map (padLine widest))

/-- The sign of success. -/
def successMark : Text := "✓"

/-- The sign of failure. -/
def failureMark : Text := "✗"

end DatePattern.Output
