import DatePattern.Capability
import DatePattern.Dialect.Grammar
import DatePattern.Output.Json
import DatePattern.Output.Basic
import DatePattern.Output.Table

/-!
# The matrix of format characters

Every supported character with its meaning and how some dialects produce it, and the
characters that are rejected. In a table a long recipe is cut short.
-/

namespace DatePattern.Output

/-- How a dialect produces a character: a specifier, or the description of a recipe. Both are
empty when it does not. -/
structure Support where
  native : Text := []
  emulated : Text := []
  deriving DecidableEq, Repr

/-- The support of a capability. -/
def Support.ofCapability : Capability → Support
  | .native specifier => { native := specifier }
  | .emulated recipe => { emulated := recipe.describe }

/-- The characters of a recipe that a cell shows in full. -/
def cellLimit : Nat := 32

/-- A cell of the matrix; a tilde marks a recipe. -/
def Support.cell (support : Support) : Text :=
  if !support.native.isEmpty then support.native
  else if support.emulated.isEmpty then []
  else
    let chars := support.emulated.chars
    if cellLimit < chars.length then "~ " ++ Text.ofChars (chars.take (cellLimit - 3)) ++ "..."
    else "~ " ++ support.emulated

/-- A support as JSON. -/
def Support.json (support : Support) : Json :=
  Json.groups [Json.optional "native" support.native, Json.optional "emulated" support.emulated]

/-- The matrix for some dialects. -/
structure Matrix where
  dialects : List Grammar

namespace Matrix

/-- How the dialects produce a character, for those that do. -/
def supports (matrix : Matrix) (c : Char) : List (Text × Support) :=
  matrix.dialects.filterMap fun g =>
    (g.kind.capability? c).map fun capability => (g.name, Support.ofCapability capability)

/-- A character as JSON; the dialects are in bytewise order. -/
def charJson (matrix : Matrix) (c : Char) : Json :=
  .record [("char", .text (Text.ofChar c)), ("meaning", .text (Charset.meaning c)),
    ("dialects", .record ((Text.sortBy Prod.fst (matrix.supports c)).map fun (name, support) =>
      (name, support.json)))]

/-- The matrix as JSON. -/
def json (matrix : Matrix) : Json :=
  .record [("supported", .list (Charset.supported.map matrix.charJson)),
    ("unsupported", .list (Charset.unsupported.map fun c => .text (Text.ofChar c)))]

/-- The row of a character. -/
def row (matrix : Matrix) (c : Char) : List Text :=
  Text.ofChar c :: Charset.meaning c :: matrix.dialects.map fun g =>
    (((matrix.supports c).lookup g.name).getD {}).cell

/-- The table of the characters. -/
def table (matrix : Matrix) : Table :=
  ⟨"Char" :: "Meaning" :: matrix.dialects.map Grammar.name, Charset.supported.map matrix.row⟩

/-- The line of the rejected characters. -/
def rejected : Text :=
  "Unsupported: " ++ Text.joinWith " " (Charset.unsupported.map Text.ofChar)

/-- The matrix in a shape. -/
def render (matrix : Matrix) : Shape → Text
  | .json => matrix.json.document
  | .markdown =>
    Text.unlines [header 1 "Format characters", []] ++ matrix.table.markdown
      ++ Text.unlines [[], rejected]
  | .text =>
    matrix.table.text
      ++ Text.unlines [[], styled rejected,
        styled "\"~\" marks an emulation; escape unsupported characters with a backslash"]

end Matrix

end DatePattern.Output
