import DatePattern.Connection.Settings
import DatePattern.Number.Integer
import DatePattern.Text.Utf8
import DatePattern.Yaml.Value

/-!
# Reading settings from values

A setting has a type, and the value given for it is bent to that type where there is one
sensible way: a number or a truth value stands for its text, a text for the number it
spells or for the list between its commas, a single value for a list of one. Null stands
for the empty value of any type. All else is refused.
-/

namespace DatePattern.Config

open Yaml (Value)

/-- The truth value that a text spells. -/
def truthOf? (text : Text) : Option Bool :=
  if [("1" : Text), "t", "T", "true", "TRUE", "True"].contains text then some true
  else if [("0" : Text), "f", "F", "false", "FALSE", "False"].contains text then some false
  else none

/-- The text of a value. -/
def textOf? : Value → Option Text
  | .null => some []
  | .text t => some t
  | .bool b => some (if b then "1" else "0")
  | .int n => some (Decimal.ofInt n)
  | .float x => some x.plain
  | .time _ => none
  | .list _ => none
  | .map _ => none

/-- The whole number of a value, in 64 bits. A float loses its fraction; one out of range
stands for the lowest number. -/
def intOf? : Value → Option Int
  | .null => some 0
  | .text t => if t.isEmpty then some 0 else (Integer.ofMarked t).toOption
  | .bool b => some (if b then 1 else 0)
  | .int n => some (Int.bmod n (Nat.pow 2 64))
  | .float x =>
    let lowest : Int := -Int.pow 2 63
    match x.truncated? with
    | some n => some (if lowest ≤ n && n < Int.pow 2 63 then n else lowest)
    | none => some lowest
  | .time _ => none
  | .list _ => none
  | .map _ => none

/-- The truth value of a value. -/
def boolOf? : Value → Option Bool
  | .null => some false
  | .text t => if t.isEmpty then some false else truthOf? t
  | .bool b => some b
  | .int n => some (n != 0)
  | .float x =>
    some (match x with
      | .finite _ mantissa _ => mantissa != 0
      | _ => true)
  | .time _ => none
  | .list _ => none
  | .map _ => none

/-- The list of texts of a value. -/
def textsOf? : Value → Option (List Text)
  | .null => some []
  | .text t => some (if t.isEmpty then [] else t.splitAtByte 0x2C)
  | .list items => items.mapM textOf?
  | .map [] => some []
  | value => (textOf? value).map ([·])

/-- Gives a name a value, in place of an earlier one. -/
def setEntry (name : Text) (value : α) : List (Text × α) → List (Text × α)
  | [] => [(name, value)]
  | (n, v) :: rest => if n = name then (name, value) :: rest else (n, v) :: setEntry name value rest

/-- The entries of a value that is a mapping, or a list of mappings one over the other. A
moment has no entries. -/
def entriesOf? : Value → Option (List (Text × Value))
  | .null => some []
  | .map entries => some entries
  | .time _ => some []
  | .list items => do
    let maps ← items.mapM fun
      | .null => some []
      | .map entries => some entries
      | .time _ => some []
      | _ => none
    return maps.flatten.foldl (fun all (name, value) => setEntry name value all) []
  | _ => none

/-- The letter that stands for all letters equal to it but for case. -/
def foldLetter (c : Char) : Char :=
  if c.toNat = 0x17F then 's' else if c.toNat = 0x212A then 'k' else c.toLower

/-- Whether two names differ at most in the case of their letters. -/
def sameName (a b : Text) : Bool := a.chars.map foldLetter == b.chars.map foldLetter

/-- The value of a field: the one with its exact name, else the first that differs in case
only, else null. -/
def fieldOf (entries : List (Text × Value)) (name : Text) : Value :=
  match entries.lookup name with
  | some value => value
  | none => ((entries.find? fun (other, _) => sameName other name).map Prod.snd).getD .null

/-- The options of a target. -/
def optionsOf? (value : Value) : Option (List (Text × Text)) := do
  (← entriesOf? value).mapM fun (name, value) => do return (name, ← textOf? value)

/-- The settings of a target. -/
def targetOf? (value : Value) : Option ConnectionSettings := do
  let entries ←
    match value with
    | .null => some []
    | .map entries => some entries
    | .time _ => some []
    | _ => none
  return {
    type := ← textOf? (fieldOf entries "type")
    path := ← textOf? (fieldOf entries "path")
    host := ← textOf? (fieldOf entries "host")
    port := ← intOf? (fieldOf entries "port")
    database := ← textOf? (fieldOf entries "database")
    user := ← textOf? (fieldOf entries "user")
    password := ← textOf? (fieldOf entries "password")
    options := ← optionsOf? (fieldOf entries "options") }

/-- The targets by name. -/
def targetsOf? (value : Value) : Option (List (Text × ConnectionSettings)) := do
  (← entriesOf? value).mapM fun (name, value) => do return (name, ← targetOf? value)

end DatePattern.Config
