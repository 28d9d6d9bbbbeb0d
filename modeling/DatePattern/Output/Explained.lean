import DatePattern.Output.Json
import DatePattern.Output.Basic
import DatePattern.Output.Table
import DatePattern.Plan.Compile

/-!
# Explained formats

How a dialect comes to the SQL of a format: what becomes of each token, the fragments, and
the SQL they are put together to.
-/

namespace DatePattern.Output

/-- One token and what becomes of it. -/
structure Step where
  pos : Int
  /-- The character of the token. -/
  char : Text
  escaped : Bool
  /-- What the character means, empty for an escaped one. -/
  meaning : Text
  /-- How the token is produced. -/
  kind : Text
  /-- A short description of how. -/
  resolution : Text
  deriving DecidableEq, Repr

/-- One fragment and its SQL. -/
structure Piece where
  kind : Text
  sql : Text
  deriving DecidableEq, Repr

/-- An explained format. -/
structure Explained where
  dialect : Text
  format : Text
  steps : List Step
  pieces : List Piece
  sql : Text
  deriving DecidableEq, Repr

/-- The step of a resolution. -/
def Step.ofResolution (resolution : Resolution) : Step where
  pos := resolution.token.pos
  char := resolution.token.text
  escaped := resolution.token.literal
  meaning := if resolution.token.literal then [] else Charset.meaning resolution.token.char
  kind := resolution.manner.name
  resolution := resolution.describe

/-- The row of a step: an escaped character has its backslash again. -/
def Step.row (step : Step) : List Text :=
  [Decimal.ofInt step.pos, if step.escaped then "\\" ++ step.char else step.char, step.meaning,
    step.kind, step.resolution]

/-- A step as JSON. -/
def Step.json (step : Step) : Json :=
  Json.groups
    [[("pos", .int step.pos), ("char", .text step.char), ("escaped", .bool step.escaped)],
      Json.optional "meaning" step.meaning,
      [("kind", .text step.kind), ("resolution", .text step.resolution)]]

/-- A fragment with its SQL around a subject's SQL. -/
def Piece.ofFragment (g : Grammar) (subject : Text) (fragment : Fragment) : Piece :=
  ⟨fragment.kindName, fragment.sql g subject⟩

/-- A fragment as JSON. -/
def Piece.json (piece : Piece) : Json :=
  .record [("kind", .text piece.kind), ("sql", .text piece.sql)]

/-- The place of a fragment and its kind. -/
def Piece.key (index : Nat) (piece : Piece) : Text :=
  Decimal.ofNat (index + 1) ++ " (" ++ piece.kind ++ ")"

/-- A fragment as a line of markdown, its SQL in backticks. -/
def Piece.markdown (index : Nat) (piece : Piece) : Text :=
  keyValue (piece.key index) ("`" ++ piece.sql ++ "`")

/-- A fragment as a line of text. -/
def Piece.line (index : Nat) (piece : Piece) : Text :=
  styled ("fragment " ++ piece.key index ++ ":") ++ " " ++ piece.sql

/-- Explains a format for a dialect. -/
def explain (g : Grammar) (subject : SqlExpr) (format : Text) : Except CompileError Explained := do
  let explanation ← DatePattern.explain g.kind format
  let text := subject.render g
  return {
    dialect := g.name
    format
    steps := explanation.resolutions.map Step.ofResolution
    pieces := explanation.fragments.map (Piece.ofFragment g text)
    sql := emit g text explanation.fragments }

namespace Explained

/-- The table of the tokens. -/
def table (explained : Explained) : Table :=
  ⟨["Pos", "Char", "Meaning", "Kind", "Resolution"], explained.steps.map Step.row⟩

/-- An explained format as JSON. -/
def json (explained : Explained) : Json :=
  .record [("dialect", .text explained.dialect), ("format", .text explained.format),
    ("steps", Json.listOrNull (explained.steps.map Step.json)),
    ("fragments", Json.listOrNull (explained.pieces.map Piece.json)),
    ("sql", .text explained.sql)]

/-- An explained format as markdown. -/
def markdown (explained : Explained) : Text :=
  Text.unlines
      [header 1 ("Explain " ++ explained.format.quoted ++ " for " ++ explained.dialect), [],
        header 2 "Tokens", []]
    ++ explained.table.markdown
    ++ Text.unlines ([[], header 2 "Fragments", []] ++ explained.pieces.mapIdx Piece.markdown
        ++ [[], header 2 "SQL", [], codeBlock "sql" explained.sql])

/-- An explained format as text. -/
def text (explained : Explained) : Text :=
  explained.table.text
    ++ Text.unlines ([[]] ++ explained.pieces.mapIdx Piece.line ++ [[], styled explained.sql])

/-- An explained format in a shape. -/
def render (explained : Explained) : Shape → Text
  | .json => explained.json.document
  | .markdown => explained.markdown
  | .text => explained.text

end Explained

end DatePattern.Output
