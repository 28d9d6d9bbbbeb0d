import DatePattern.Plan.Fragment
import DatePattern.Text.CharClass

/-!
# Native formats

The format string of one call of an engine's date function. Specifiers stand as they are
and literal text is escaped by the rules of the engine:

* MySQL and SQLite double the percent sign;
* PostgreSQL puts text with a letter, a double quote or a backslash between double quotes,
  and an empty pair of quotes between two specifiers that would touch with letters;
* SQL Server puts a backslash before letters and five other characters, and before a
  format of a single character, which would be a standard format.
-/

namespace DatePattern

/-- A part of a native format: a specifier, or a longest run of literal text. -/
inductive Run where
  | specifier (text : Text)
  | literal (text : Text)
  deriving DecidableEq, Repr

namespace NativeFormat

/-- The runs of a list of resolutions. -/
def runs : List Resolution → List Run
  | [] => []
  | r :: rest =>
    if r.manner = .native then .specifier r.native :: runs rest
    else
      match runs rest with
      | .literal text :: more => .literal (r.token.text ++ text) :: more
      | more => .literal r.token.text :: more

/-- A byte inside the double quotes of a PostgreSQL format. -/
def postgresByte (b : UInt8) : Text := if b = 0x5C ∨ b = 0x22 then [0x5C, b] else [b]

/-- Whether PostgreSQL needs a character between quotes. -/
def postgresQuotes (c : Char) : Bool := CharClass.isLetter c || c = '"' || c = '\\'

/-- Whether SQL Server needs a backslash before a character. -/
def sqlserverEscapes (c : Char) : Bool :=
  CharClass.isLetter c || ['\\', '/', '%', '"', '\''].contains c

/-- Literal text by the rules of a dialect. -/
def escape (kind : Kind) (text : Text) : Text :=
  match kind.engine? with
  | some .mysql | some .sqlite => text.replaceByte 0x25 [0x25, 0x25]
  | some .postgres =>
    if text.chars.any postgresQuotes then "\"" ++ text.flatMap postgresByte ++ "\"" else text
  | some .sqlserver =>
    text.chars.flatMap fun c =>
      if sqlserverEscapes c then 0x5C :: Text.ofChar c else Text.ofChar c
  | none => text

/-- Whether a text starts with a letter. -/
def startsWithLetter (text : Text) : Bool := text.chars.head?.any CharClass.isLetter

/-- Whether a text ends with a letter. -/
def endsWithLetter (text : Text) : Bool := text.chars.getLast?.any CharClass.isLetter

/-- The text of runs behind the specifier `previous`, empty when none stands there. -/
def write (kind : Kind) : (previous : Text) → List Run → Text
  | _, [] => []
  | previous, .specifier text :: rest =>
    let joint : Text :=
      if kind = Engine.postgres.kind && endsWithLetter previous && startsWithLetter text then "\"\""
      else []
    joint ++ text ++ write kind text rest
  | _, .literal text :: rest => escape kind text ++ write kind [] rest

/-- Escapes a SQL Server format of a single character. -/
def guarded (kind : Kind) (format : Text) : Text :=
  if kind = Engine.sqlserver.kind && format.charCount == 1 then 0x5C :: format else format

/-- The format string of a list of resolutions. -/
def ofParts (kind : Kind) (parts : List Resolution) : Text :=
  guarded kind (write kind [] (runs parts))

end NativeFormat

end DatePattern
