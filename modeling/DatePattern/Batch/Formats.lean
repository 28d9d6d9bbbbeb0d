import DatePattern.Directory
import DatePattern.Number.Decimal
import DatePattern.Text.Quoted
import DatePattern.Yaml.Reading

/-!
# Files of named formats

A formats file is a mapping from names to formats. A format is a scalar, or a mapping with
the keys `format` and `column`. Names keep their order and may repeat.
-/

namespace DatePattern.Batch

/-- A format under a name; an empty column stands for the default one. -/
structure NamedFormat where
  name : Text
  format : Text
  column : Text := []
  deriving DecidableEq, Repr

/-- Why a formats file cannot be used. -/
inductive FormatsError where
  | unreadable (cause : FileError)
  /-- The text is not a document. -/
  | notYaml (path : Text) (fault : Yaml.Fault)
  /-- The document is not a mapping. -/
  | notMapping (path : Text) (line : Nat)
  /-- The mapping of an entry cannot be read. -/
  | badEntry (path name : Text) (fault : Yaml.Fault)
  /-- An entry is neither a text nor a mapping. -/
  | wrongKind (path name : Text) (line : Nat)
  deriving DecidableEq, Repr

/-- The wording of a formats error. -/
def FormatsError.message : FormatsError → Text
  | .unreadable cause => "failed to read formats file: " ++ cause.message
  | .notYaml path _ => "failed to parse " ++ path ++ ": yaml:"
  | .notMapping path line =>
    path ++ ": expected a mapping of name to format at line " ++ Decimal.ofNat line
  | .badEntry path name _ => path ++ ": entry " ++ name.quoted ++ ": yaml:"
  | .wrongKind path name line =>
    path ++ ": entry " ++ name.quoted ++ " at line " ++ Decimal.ofNat line
      ++ " must be a string or a mapping"

/-- The format of a mapping entry; a field that is not given is empty. -/
def longEntry (document : Yaml.Document) (name : Text) (entries : List (Yaml.Node × Yaml.Node)) :
    Except Yaml.Fault NamedFormat := do
  let record ← document.fields ["format", "column"] entries
  let field (name : Text) : Text := (record.lookup name).getD []
  return ⟨name, field "format", field "column"⟩

/-- The text of the key of an entry. -/
def entryName : Yaml.Node → Text
  | .scalar _ _ _ text => text
  | .alias _ name _ _ => name
  | _ => []

/-- The format of one entry. A scalar counts as it is written, whatever its tag. -/
def namedFormat (path : Text) (document : Yaml.Document) (key node : Yaml.Node) :
    Except FormatsError NamedFormat :=
  let name := entryName key
  match node with
  | .scalar _ _ _ text => .ok { name, format := text }
  | .mapping _ _ entries => (longEntry document name entries).mapError (.badEntry path name)
  | other => .error (.wrongKind path name other.line)

/-- The named formats of a text. -/
def parseFormats (path text : Text) : Except FormatsError (List NamedFormat) := do
  match ← (Yaml.parse text).mapError (.notYaml path) with
  | none => return []
  | some document =>
    match document.root with
    | .mapping _ _ entries =>
      entries.mapM fun (key, node) => namedFormat path document key node
    | other => throw (.notMapping path other.line)

/-- The named formats of a file. -/
def loadFormats (dir : Directory) (path : Text) : Except FormatsError (List NamedFormat) := do
  parseFormats path (← (dir.read path).mapError .unreadable)

end DatePattern.Batch
