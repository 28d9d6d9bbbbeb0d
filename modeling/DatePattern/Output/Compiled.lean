import DatePattern.Output.Json
import DatePattern.Output.Basic
import DatePattern.Plan.Compile

/-!
# Compiled formats

A format, its subject and its SQL for some dialects. As text a single dialect is bare SQL,
and several are blocks under a comment with the dialect's name.
-/

namespace DatePattern

/-- The SQL of a dialect as JSON. -/
def DialectSql.json (result : DialectSql) : Output.Json :=
  .record [("dialect", .text result.dialect), ("sql", .text result.sql)]

/-- The SQL of a dialect under a comment with its name. -/
def DialectSql.block (result : DialectSql) : Text :=
  "-- " ++ result.dialect ++ "\n" ++ result.sql ++ "\n"

/-- The lines of a dialect's SQL in markdown, under a header of a level. -/
def DialectSql.markdown (level : Nat) (result : DialectSql) : List Text :=
  [[], Output.header level result.dialect, [], Output.codeBlock "sql" result.sql]

namespace Output

/-- A format with its SQL. -/
structure Compiled where
  format : Text
  /-- The subject as it was written. -/
  subject : Text
  results : List DialectSql
  deriving DecidableEq, Repr

namespace Compiled

/-- A compiled format as JSON. -/
def json (compiled : Compiled) : Json :=
  .record [("format", .text compiled.format), ("subject", .text compiled.subject),
    ("results", Json.listOrNull (compiled.results.map DialectSql.json))]

/-- A compiled format as text. -/
def text (compiled : Compiled) : Text :=
  match compiled.results with
  | [single] => single.sql ++ "\n"
  | several => several.flatMap DialectSql.block

/-- A compiled format as markdown. -/
def markdown (compiled : Compiled) : Text :=
  Text.unlines <|
    [header 1 ("Compiled format: " ++ compiled.format), [], keyValue "Subject" compiled.subject]
      ++ compiled.results.flatMap (DialectSql.markdown 2)

/-- A compiled format in a shape. -/
def render (compiled : Compiled) : Shape → Text
  | .json => compiled.json.document
  | .markdown => compiled.markdown
  | .text => compiled.text

end Compiled

end Output

end DatePattern
