import DatePattern.Number.Decimal
import DatePattern.Text.Quoted

/-!
# JSON documents

JSON with two spaces of indentation. Texts are written so that they are safe inside markup:
angle brackets, the ampersand and the two line separators are escaped, and a stray byte is
written as the replacement character.
-/

namespace DatePattern.Output

/-- A JSON value. -/
inductive Json where
  | null
  | bool (b : Bool)
  | int (n : Int)
  | text (t : Text)
  | list (items : List Json)
  /-- Named values in order. -/
  | record (fields : List (Text × Json))

namespace Json

/-- A list of values, null when it is empty. -/
def listOrNull (items : List Json) : Json := if items.isEmpty then .null else .list items

/-- A field that is left out when its text is empty. -/
def optional (name text : Text) : List (Text × Json) :=
  if text.isEmpty then [] else [(name, .text text)]

/-- A field that is left out when it is false. -/
def flag (name : Text) (b : Bool) : List (Text × Json) := if b then [(name, .bool true)] else []

/-- A record of groups of fields. -/
def groups (parts : List (List (Text × Json))) : Json := .record parts.flatten

/-- A character written by its number. -/
def numbered (n : Nat) : Text := "\\u" ++ Text.hex 4 n

/-- A character of a text. -/
def charText (c : Char) : Text :=
  if c = '"' then "\\\""
  else if c = '\\' then "\\\\"
  else if c = '\n' then "\\n"
  else if c = '\r' then "\\r"
  else if c = '\t' then "\\t"
  else if c.toNat = 8 then "\\b"
  else if c.toNat = 12 then "\\f"
  else if c.toNat < 0x20 || c = '<' || c = '>' || c = '&'
      || c.toNat = 0x2028 || c.toNat = 0x2029 then
    numbered c.toNat
  else Text.ofChar c

/-- A symbol of a text. -/
def symbolText : Symbol → Text
  | .char c => charText c
  | .stray _ => numbered 0xFFFD

/-- A text between quotes. -/
def quote (text : Text) : Text := "\"" ++ text.symbols.flatMap symbolText ++ "\""

/-- A new line with an indentation. -/
def newLine (depth : Nat) : Text := "\n" ++ Text.repeated (2 * depth) 0x20

mutual

/-- A value at an indentation. -/
def write (depth : Nat) : Json → Text
  | .null => "null"
  | .bool b => if b then "true" else "false"
  | .int n => Decimal.ofInt n
  | .text t => quote t
  | .list [] => "[]"
  | .list (item :: rest) =>
    "[" ++ newLine (depth + 1) ++ write (depth + 1) item ++ writeItems (depth + 1) rest
      ++ newLine depth ++ "]"
  | .record [] => "\x7b\x7d"
  | .record ((name, value) :: rest) =>
    "\x7b" ++ newLine (depth + 1) ++ quote name ++ ": " ++ write (depth + 1) value
      ++ writeFields (depth + 1) rest ++ newLine depth ++ "\x7d"

/-- The items after the first. -/
def writeItems (depth : Nat) : List Json → Text
  | [] => []
  | item :: rest => "," ++ newLine depth ++ write depth item ++ writeItems depth rest

/-- The fields after the first. -/
def writeFields (depth : Nat) : List (Text × Json) → Text
  | [] => []
  | (name, value) :: rest =>
    "," ++ newLine depth ++ quote name ++ ": " ++ write depth value ++ writeFields depth rest

end

/-- A document: a value and a line feed. -/
def document (value : Json) : Text := value.write 0 ++ "\n"

end Json

end DatePattern.Output
