import DatePattern.Batch.Formats
import DatePattern.Output.Compiled
import DatePattern.Output.Table

/-!
# Compiling many formats

A batch compiles every named format for every dialect. Either all of them are accepted, or
there is no result and every rejected format is reported once, in order.
-/

namespace DatePattern.Batch

/-- A named format with its SQL. -/
structure Entry where
  name : Text
  format : Text
  column : Text
  results : List DialectSql
  deriving DecidableEq, Repr

/-- The formats of a file with their SQL. -/
structure Compiled where
  file : Text
  entries : List Entry
  deriving DecidableEq, Repr

/-- A named format that is rejected. -/
structure Rejection where
  name : Text
  cause : CompileError
  deriving DecidableEq, Repr

/-- The wording of a rejection. -/
def Rejection.message (rejection : Rejection) : Text :=
  rejection.name ++ ": " ++ rejection.cause.message

/-- The wording of several rejections, one after the other. -/
def Rejection.messages (rejections : List Rejection) : Text :=
  Text.joinWith "\n" (rejections.map Rejection.message)

/-- The column of a named format, the default one when it has none. -/
def NamedFormat.columnOr (format : NamedFormat) (default : Text) : Text :=
  if format.column.isEmpty then default else format.column

/-- Compiles one named format. -/
def compileEntry (dialects : List Grammar) (default : Text) (format : NamedFormat) :
    Except Rejection Entry :=
  let column := format.columnOr default
  match compileEach (.column column) format.format dialects with
  | .ok results => .ok ⟨format.name, format.format, column, results⟩
  | .error failure => .error ⟨format.name, failure.cause⟩

/-- The rejected formats among some, in order. -/
def rejections (dialects : List Grammar) (default : Text) (formats : List NamedFormat) :
    List Rejection :=
  formats.filterMap fun format =>
    match compileEntry dialects default format with
    | .ok _ => none
    | .error rejection => some rejection

/-- The accepted formats among some, in order. -/
def accepted (dialects : List Grammar) (default : Text) (formats : List NamedFormat) : List Entry :=
  formats.filterMap fun format =>
    match compileEntry dialects default format with
    | .ok entry => some entry
    | .error _ => none

/-- Compiles named formats: all of them, or none and every rejection. -/
def compileAll (dialects : List Grammar) (default : Text) (formats : List NamedFormat) :
    Except (List Rejection) (List Entry) :=
  match rejections dialects default formats with
  | [] => .ok (accepted dialects default formats)
  | rejected => .error rejected

open Output (Json)

/-- An entry as JSON. -/
def Entry.json (entry : Entry) : Json :=
  Json.groups
    [[("name", .text entry.name), ("format", .text entry.format)],
      Json.optional "column" entry.column,
      [("results", Json.listOrNull (entry.results.map DialectSql.json))]]

/-- The lines of an entry in markdown. -/
def Entry.markdown (entry : Entry) : List Text :=
  [[], Output.header 2 entry.name, [], Output.keyValue "Format" ("`" ++ entry.format ++ "`"),
    Output.keyValue "Column" entry.column] ++ entry.results.flatMap (DialectSql.markdown 3)

/-- The rows of an entry. -/
def Entry.rows (entry : Entry) : List (List Text) :=
  entry.results.map fun result => [entry.name, result.dialect, result.sql]

/-- A compiled batch in a shape. -/
def Compiled.render (compiled : Compiled) : Output.Shape → Text
  | .json =>
    Json.document <| .record [("file", .text compiled.file),
      ("entries", Json.listOrNull (compiled.entries.map Entry.json))]
  | .markdown =>
    Text.unlines <|
      Output.header 1 ("Formats: " ++ compiled.file) :: compiled.entries.flatMap Entry.markdown
  | .text => Output.Table.text ⟨["Name", "Dialect", "SQL"], compiled.entries.flatMap Entry.rows⟩

end DatePattern.Batch
