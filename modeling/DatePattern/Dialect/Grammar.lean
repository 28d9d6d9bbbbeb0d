import DatePattern.Dialect.Engine

/-!
# Grammars

A grammar says how a dialect writes strings and identifiers. String literals stand between
single quotes and double the quotes inside; some dialects also double backslashes. Names
are dotted paths: each segment is quoted by itself and a segment `*` stays bare.
-/

namespace DatePattern

/-- The lexical rules of a SQL dialect. -/
structure Grammar where
  /-- The name of the dialect. -/
  name : Text
  /-- The number of the dialect. -/
  kind : Kind
  /-- What opens a quoted identifier. -/
  opening : Text := "\""
  /-- What closes a quoted identifier. -/
  closing : Text := "\""
  /-- What stands for the closing quote inside an identifier. -/
  escape : Text := "\"\""
  /-- Whether a backslash escapes inside string literals. -/
  backslash : Bool := false
  /-- Other names of the dialect. -/
  aliases : List Text := []
  deriving DecidableEq, Repr

namespace Grammar

/-- A text as a string literal. -/
def string (g : Grammar) (text : Text) : Text :=
  let text := if g.backslash then text.replaceByte 0x5C [0x5C, 0x5C] else text
  "'" ++ text.replaceByte 0x27 [0x27, 0x27] ++ "'"

/-- The inside of a quoted identifier. When nothing closes an identifier, the escape stands
around every symbol. -/
def escaped (g : Grammar) (name : Text) : Text :=
  if g.closing.isEmpty then
    name.symbols.flatMap (fun symbol => g.escape ++ symbol.bytes) ++ g.escape
  else name.replace g.closing g.escape

/-- One segment of a name as a quoted identifier. -/
def identifier (g : Grammar) (name : Text) : Text := g.opening ++ g.escaped name ++ g.closing

/-- One segment of a dotted name: quoted, unless it is the bare star. -/
def segment (g : Grammar) (name : Text) : Text := if name = "*" then "*" else g.identifier name

/-- A dotted name with each of its segments quoted. -/
def path (g : Grammar) (name : Text) : Text :=
  Text.joinWith "." ((name.splitAtByte 0x2E).map g.segment)

end Grammar

/-- The grammar of an engine. -/
def Engine.grammar : Engine → Grammar
  | .mysql =>
    { name := "mysql", kind := Engine.mysql.kind, opening := "`", closing := "`", escape := "``"
      backslash := true, aliases := ["mariadb"] }
  | .sqlite => { name := "sqlite", kind := Engine.sqlite.kind, aliases := ["sqlite3"] }
  | .postgres =>
    { name := "postgres", kind := Engine.postgres.kind, aliases := ["pgsql", "postgresql"] }
  | .sqlserver =>
    { name := "sqlserver", kind := Engine.sqlserver.kind, opening := "[", closing := "]"
      escape := "]]", aliases := ["sqlsrv", "mssql"] }

end DatePattern
