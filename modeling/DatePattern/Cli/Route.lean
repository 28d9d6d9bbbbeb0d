import DatePattern.Cli.Command
import DatePattern.Text.Case

/-!
# Finding the command of a command line

The command of a line is its first word that is neither a flag nor the value of one. A flag
takes the next word as its value unless it is known to be a truth value; an unknown flag
counts as one that takes a value.

- `Route.plainWords`: the words of a line that are neither flags nor values
- `Route.without`: a line without the first such word of a name
- `Route.suggestions`: the names that a misspelt name may have meant
-/

namespace DatePattern.Cli.Route

/-- Whether a word takes the next one as its value, as far as the flags tell. -/
def takesNext (flags : List Flag) (word : Text) : Bool :=
  match word with
  | 0x2D :: 0x2D :: name =>
    !word.contains 0x3D && !(Flag.named? flags name).any Flag.isBool
  | [0x2D, short] => short ≠ 0x3D && !(Flag.short? flags short).any Flag.isBool
  | _ => false

/-- Whether a word may be the name of a command. -/
def isName (word : Text) : Bool := !word.isEmpty && word.head? ≠ some 0x2D

/-- The words that are neither flags nor values. `skip` says that the next word is a value. A
value that is the last word ends the line. -/
def plainWordsFrom (flags : List Flag) : (skip : Bool) → List Text → List Text
  | _, [] => []
  | true, _ :: rest => plainWordsFrom flags false rest
  | false, word :: rest =>
    if word = "--" then []
    else if takesNext flags word then
      if rest.length ≤ 1 then [] else plainWordsFrom flags true rest
    else if isName word then word :: plainWordsFrom flags false rest
    else plainWordsFrom flags false rest

/-- The words of a line that are neither flags nor values. -/
def plainWords (flags : List Flag) (line : List Text) : List Text := plainWordsFrom flags false line

/-- A line without the first word that is a name and neither a flag nor a value. `skip` says
that the next word is a value. -/
def withoutFrom (flags : List Flag) (name : Text) : (skip : Bool) → List Text → List Text
  | _, [] => []
  | true, word :: rest => word :: withoutFrom flags name false rest
  | false, word :: rest =>
    if word = "--" then word :: rest
    else if takesNext flags word then word :: withoutFrom flags name true rest
    else if word = name then rest
    else word :: withoutFrom flags name false rest

/-- A line without the first word that is a name. -/
def without (flags : List Flag) (name : Text) (line : List Text) : List Text :=
  withoutFrom flags name false line

/-! ### Suggestions -/

/-- One row of the table of distances. `corner` and `left` are the distances left above and
left of the next cell, and `above` those of the row before. -/
def distanceRow (b : UInt8) (corner left : Nat) : Text → (above : List Nat) → List Nat
  | a :: rest, up :: above =>
    let here := if a = b then corner else 1 + min corner (min left up)
    here :: distanceRow b up here rest above
  | _, _ => []

/-- The rows of the table of distances from a text, one byte of the other text after the
other; what is left is the last row. -/
def distanceRows (text : Text) : (row : List Nat) → Text → List Nat
  | row, [] => row
  | [], _ => []
  | corner :: above, b :: rest =>
    distanceRows text ((corner + 1) :: distanceRow b corner (corner + 1) text above) rest

/-- How many bytes must be inserted, removed or replaced to turn one text into another. -/
def distance (text other : Text) : Nat :=
  (distanceRows text (List.range (text.length + 1)) other).getLastD 0

/-- The greatest distance of a name that was misspelt. -/
def nearness : Nat := 2

/-- Whether a name may be meant by what was typed, whatever the case. -/
def isNear (typed name : Text) : Bool :=
  distance typed.lower name.lower ≤ nearness || typed.lower.isPrefixOf name.lower

/-- The names that may be meant by what was typed. -/
def suggestions (names : List Text) (typed : Text) : List Text := names.filter (isNear typed)

end DatePattern.Cli.Route
