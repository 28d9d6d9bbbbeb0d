import DatePattern.Dialect.Registry
import DatePattern.Text.CharClass

/-!
# Completing a line

What could follow a line of a session that is being typed: the names of the commands, and
after `.dialect` those of the dialects. A completion is the rest of a name with the space
after it.
-/

namespace DatePattern.Session

/-- The commands of a session. -/
def commandNames : List Text :=
  [".help", ".dialect", ".column", ".expr", ".explain", ".quit", ".exit"]

/-- Completions of what was typed, and how many characters of it they go on from. -/
structure Completion where
  candidates : List (List Char) := []
  length : Nat := 0
  deriving DecidableEq, Repr

/-- The names that what was typed may become, each with a space after it. -/
def words (names : List Text) : List (List Char) := names.map fun name => name.chars ++ [' ']

/-- The word that a line starts with, if one is complete. -/
def completeWord? (words : List (List Char)) (line : List Char) : Option (List Char) :=
  words.find? fun word => word.isPrefixOf line

/-- The words that go on from a line. -/
def openWords (words : List (List Char)) (line : List Char) : Completion :=
  let found := words.filter fun word => line.isPrefixOf word
  if found.isEmpty then {} else ⟨found.map (·.drop line.length), line.length⟩

/-- Completes the name of a dialect; after a complete one nothing follows. -/
def completeDialect (registry : Registry) (line : List Char) : Completion :=
  let names := words registry.list
  match completeWord? names line with
  | some _ => {}
  | none => openWords names line

/-- Completes a line at its end. -/
def complete (registry : Registry) (text : Text) : Completion :=
  let line := text.chars.dropWhile CharClass.isBlank
  match completeWord? (words commandNames) line with
  | none => openWords (words commandNames) line
  | some word =>
    if word = ".dialect ".toList then
      completeDialect registry ((line.drop word.length).dropWhile CharClass.isBlank)
    else {}

end DatePattern.Session
