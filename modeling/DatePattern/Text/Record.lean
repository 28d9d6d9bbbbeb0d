import DatePattern.Number.Decimal
import DatePattern.Text.CharClass
import DatePattern.Text.Utf8

/-!
# Comma-separated records

A record is a line of fields between commas. A field in double quotes may hold commas, line
feeds and quotes, a quote being written twice; outside them a quote is a fault. Empty lines
before the record are passed over, and what comes after it is not read. A carriage return
at the end of a line does not count.
-/

namespace DatePattern.Record

/-- Why a text is not a record. -/
inductive Fault where
  /-- There is no line that is not empty. -/
  | nothing
  /-- A quote stands in a field without quotes. -/
  | bareQuote (line column : Nat)
  /-- A quoted field does not end as it should. -/
  | badQuote (start line column : Nat)
  deriving DecidableEq, Repr

/-- The wording of a fault. -/
def Fault.message : Fault → Text
  | .nothing => "EOF"
  | .bareQuote line column =>
    "parse error on line " ++ Decimal.ofNat line ++ ", column " ++ Decimal.ofNat column
      ++ ": bare \" in non-quoted field"
  | .badQuote start line column =>
    let place : Text :=
      "parse error on line " ++ Decimal.ofNat line ++ ", column " ++ Decimal.ofNat column
        ++ ": extraneous or missing \" in quoted-field"
    if start = line then place else "record on line " ++ Decimal.ofNat start ++ "; " ++ place

/-- A text without the carriage returns at the ends of its lines. -/
def unifyLines : Text → Text
  | [] => []
  | [0x0D] => []
  | 0x0D :: 0x0A :: rest => 0x0A :: unifyLines rest
  | b :: rest => b :: unifyLines rest

/-- Passes over empty lines; gives the number of the line reached and the rest. -/
def skipEmpty (line : Nat) : Text → Nat × Text
  | 0x0A :: rest => skipEmpty (line + 1) rest
  | text => (line, text)

/-- Where in a field the reader is. -/
inductive Place where
  /-- At its start. -/
  | start
  /-- Inside a field without quotes. -/
  | bare
  /-- Between quotes. -/
  | quoted
  /-- After a quote that may end the field. -/
  | closed
  deriving DecidableEq, Repr

/-- Reads the fields of a record. `field` holds the bytes of the field so far and `fields`
those before it, both in reverse; `first` is the line the record starts on. -/
def fieldsFrom (first : Nat) : (place : Place) → (line column : Nat) → (field : Text) →
    (fields : List Text) → Text → Except Fault (List Text)
  | .quoted, line, column, _, _, [] => .error (.badQuote first line column)
  | _, _, _, field, fields, [] => .ok ((field.reverse :: fields).reverse)
  | .quoted, line, column, field, fields, b :: rest =>
    if b = 0x22 then fieldsFrom first .closed line (column + 1) field fields rest
    else if b = 0x0A && !rest.isEmpty then
      fieldsFrom first .quoted (line + 1) 1 (b :: field) fields rest
    else fieldsFrom first .quoted line (column + 1) (b :: field) fields rest
  | .closed, line, column, field, fields, b :: rest =>
    if b = 0x22 then fieldsFrom first .quoted line (column + 1) (b :: field) fields rest
    else if b = 0x2C then
      fieldsFrom first .start line (column + 1) [] (field.reverse :: fields) rest
    else if b = 0x0A then .ok ((field.reverse :: fields).reverse)
    else .error (.badQuote first line (column - 1))
  | place, line, column, field, fields, b :: rest =>
    if b = 0x0A then .ok ((field.reverse :: fields).reverse)
    else if b = 0x2C then
      fieldsFrom first .start line (column + 1) [] (field.reverse :: fields) rest
    else if b = 0x22 then
      if place = .start then fieldsFrom first .quoted line (column + 1) [] fields rest
      else .error (.bareQuote line column)
    else fieldsFrom first .bare line (column + 1) (b :: field) fields rest

/-- The fields of the first record of a text. -/
def read (text : Text) : Except Fault (List Text) :=
  match skipEmpty 1 (unifyLines text) with
  | (_, []) => .error .nothing
  | (line, rest) => fieldsFrom line .start line 1 [] [] rest

/-- Whether a field is written in quotes: it holds a comma, a quote or a line end, it starts
with white space, or it is the mark that once ended a text. -/
def needsQuotes (field : Text) : Bool :=
  field = "\\." || field.any (fun b => b = 0x2C || b = 0x22 || b = 0x0D || b = 0x0A)
    || (field.chars.head?).any CharClass.isBlank

/-- A field as it is written. -/
def writeField (field : Text) : Text :=
  if needsQuotes field then "\"" ++ field.replaceByte 0x22 "\"\"" ++ "\"" else field

/-- A record as it is written. -/
def write (fields : List Text) : Text := Text.joinWith "," (fields.map writeField)

/-- The fields that are read back from a record written with the given ones: a single empty
field leaves no record. -/
def readBack (fields : List Text) : List Text :=
  if fields = [[]] then [] else fields.map fun field => field.replace "\r\n" "\n"

end DatePattern.Record
