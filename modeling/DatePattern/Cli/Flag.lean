import DatePattern.Config.Decode
import DatePattern.Text.Quoted
import DatePattern.Text.Record

/-!
# Flags

A flag has a name, perhaps a short name of one letter, and a type. Arguments are read from
the left: `--name=value`, `--name value`, `-n value`, `-nvalue`, `-n=value`, and several short
names of truth values in one word. A word `--` ends the flags; all words that belong to no
flag are arguments. A text flag keeps its last value, list flags add up.
-/

namespace DatePattern.Cli

/-- The type of a flag. -/
inductive FlagType where
  | text
  | bool
  /-- A list; each value is a record of items. -/
  | list
  /-- A list; each value is one item. -/
  | array
  deriving DecidableEq, Repr

/-- A flag that a command takes. -/
structure Flag where
  name : Text
  /-- The short name, empty when there is none. -/
  short : Text := []
  type : FlagType := .text
  /-- The default, as it is shown. -/
  default : Text := []
  /-- What the flag does. -/
  usage : Text := []
  hidden : Bool := false
  deriving DecidableEq, Repr

/-- A default of a type as it is shown. A list is the record of the parts between commas, in
brackets. -/
def FlagType.shown (type : FlagType) (default : Text) : Text :=
  match type with
  | .text => default
  | .bool => if default = "true" then "true" else "false"
  | .list | .array =>
    if default.isEmpty then "[]" else "[" ++ Record.write (default.splitAtByte 0x2C) ++ "]"

/-- The value of a flag that was set. -/
inductive FlagValue where
  | text (value : Text)
  | bool (value : Bool)
  | texts (values : List Text)
  deriving DecidableEq, Repr

/-- Why a value does not suit its flag. -/
inductive ValueFault where
  | notBool (text : Text)
  | notRecord (fault : Record.Fault)
  deriving DecidableEq, Repr

/-- The wording of a value fault. -/
def ValueFault.message : ValueFault → Text
  | .notBool text => "strconv.ParseBool: parsing " ++ text.quoted ++ ": invalid syntax"
  | .notRecord fault => fault.message

/-- Why arguments cannot be read. -/
inductive FlagError where
  /-- A word is neither a flag nor an argument. -/
  | malformed (word : Text)
  | unknown (name : Text)
  | unknownShort (short : UInt8) (word : Text)
  | needsValue (name : Text)
  | shortNeedsValue (short : UInt8) (word : Text)
  | badValue (flag : Flag) (value : Text) (fault : ValueFault)
  deriving DecidableEq, Repr

/-- The names of a flag, short one first. -/
def Flag.label (flag : Flag) : Text :=
  if flag.short.isEmpty then "--" ++ flag.name else "-" ++ flag.short ++ ", --" ++ flag.name

/-- The character shown for a byte that is no short name: a byte beyond ASCII is shown by the
lead byte of its encoding. -/
def shownShort (b : UInt8) : Char :=
  if b < 0x80 then Char.ofNat b.toNat else if b < 0xC0 then Char.ofNat 0xC2 else Char.ofNat 0xC3

/-- The wording of a flag error. -/
def FlagError.message : FlagError → Text
  | .malformed word => "bad flag syntax: " ++ word
  | .unknown name => "unknown flag: --" ++ name
  | .unknownShort short word =>
    "unknown shorthand flag: " ++ Text.quotedAlone (shownShort short) ++ " in -" ++ word
  | .needsValue name => "flag needs an argument: --" ++ name
  | .shortNeedsValue short word =>
    "flag needs an argument: " ++ Text.quotedAlone (shownShort short) ++ " in -" ++ word
  | .badValue flag value fault =>
    "invalid argument " ++ value.quoted ++ " for " ++ flag.label.quoted ++ " flag: "
      ++ fault.message

/-- The flags that were set and the arguments. -/
structure Arguments where
  values : List (Text × FlagValue) := []
  words : List Text := []
  deriving DecidableEq, Repr

namespace Flag

/-- The flag with a name. -/
def named? (flags : List Flag) (name : Text) : Option Flag :=
  flags.find? fun flag => flag.name = name

/-- The flag with a short name. -/
def short? (flags : List Flag) (short : UInt8) : Option Flag :=
  flags.find? fun flag => flag.short.head? == some short

/-- Whether a flag may stand without a value. -/
def isBool (flag : Flag) : Bool := flag.type = .bool

/-- The items that a list flag holds already. -/
def itemsOf : Option FlagValue → List Text
  | some (.texts items) => items
  | _ => []

/-- The value of a flag after one more setting. -/
def set (flag : Flag) (value : Text) (old : Option FlagValue) : Except FlagError FlagValue :=
  match flag.type with
  | .text => .ok (.text value)
  | .bool =>
    match Config.truthOf? value with
    | some b => .ok (.bool b)
    | none => .error (.badValue flag value (.notBool value))
  | .array => .ok (.texts (itemsOf old ++ [value]))
  | .list =>
    if value.isEmpty then .ok (.texts (itemsOf old))
    else
      match Record.read value with
      | .ok items => .ok (.texts (itemsOf old ++ items))
      | .error fault => .error (.badValue flag value (.notRecord fault))

end Flag

namespace Arguments

/-- Sets a flag. -/
def set (arguments : Arguments) (flag : Flag) (value : Text) : Except FlagError Arguments := do
  let value ← flag.set value (arguments.values.lookup flag.name)
  return { arguments with values := Config.setEntry flag.name value arguments.values }

/-- Reads the short names of a word; the last may take the next word as its value. Says
whether it did. -/
def readShort (flags : List Flag) (next : Option Text) (arguments : Arguments) :
    Text → Except FlagError (Arguments × Bool)
  | [] => .ok (arguments, false)
  | short :: rest =>
    let word : Text := short :: rest
    if (Text.ofString "test.").isPrefixOf word then .ok (arguments, false)
    else
      match Flag.short? flags short with
      | none => .error (.unknownShort short word)
      | some flag =>
        if 2 ≤ rest.length && rest.head? == some 0x3D then do
          return (← arguments.set flag (rest.drop 1), false)
        else if flag.isBool then
          match arguments.set flag "true" with
          | .ok arguments => readShort flags next arguments rest
          | .error e => .error e
        else if !rest.isEmpty then do return (← arguments.set flag rest, false)
        else
          match next with
          | some value => do return (← arguments.set flag value, true)
          | none => .error (.shortNeedsValue short word)

/-- Reads a word that starts with two dashes; it may take the next word as its value. Says
whether it did. -/
def readLong (flags : List Flag) (next : Option Text) (arguments : Arguments) (word : Text) :
    Except FlagError (Arguments × Bool) :=
  let body := word.drop 2
  if body.head? == some 0x2D || body.head? == some 0x3D then .error (.malformed word)
  else
    let name := body.takeWhile (· != 0x3D)
    match Flag.named? flags name with
    | none => .error (.unknown name)
    | some flag =>
      match body.dropWhile (· != 0x3D) with
      | _ :: value => do return (← arguments.set flag value, false)
      | [] =>
        if flag.isBool then do return (← arguments.set flag "true", false)
        else
          match next with
          | some value => do return (← arguments.set flag value, true)
          | none => .error (.needsValue name)

/-- Whether a word is an argument by its looks. -/
def isPlain (word : Text) : Bool := word.head? != some 0x2D || word.length = 1

/-- Reads words from the left. `skip` says that the next word is the value of a flag. -/
def readFrom (flags : List Flag) (skip : Bool) (arguments : Arguments) :
    List Text → Except FlagError Arguments
  | [] => .ok arguments
  | word :: rest =>
    if skip then readFrom flags false arguments rest
    else if isPlain word then
      readFrom flags false { arguments with words := arguments.words ++ [word] } rest
    else if word = "--" then .ok { arguments with words := arguments.words ++ rest }
    else do
      let (arguments, taken) ←
        if (Text.ofString "--").isPrefixOf word then readLong flags rest.head? arguments word
        else readShort flags rest.head? arguments (word.drop 1)
      readFrom flags taken arguments rest

/-- Reads the words of a command line for the flags of a command. -/
def read (flags : List Flag) (words : List Text) : Except FlagError Arguments :=
  readFrom flags false {} words

/-- Whether a flag was set. -/
def isSet (arguments : Arguments) (name : Text) : Bool := (arguments.values.lookup name).isSome

/-- The text of a flag that was set. -/
def text? (arguments : Arguments) (name : Text) : Option Text :=
  match arguments.values.lookup name with
  | some (.text value) => some value
  | _ => none

/-- The text of a flag, or another when it was not set. -/
def textOr (arguments : Arguments) (name default : Text) : Text :=
  (arguments.text? name).getD default

/-- Whether a truth flag is on. -/
def isOn (arguments : Arguments) (name : Text) : Bool :=
  arguments.values.lookup name == some (.bool true)

/-- The items of a list flag, as they are read back from the record of them. -/
def texts (arguments : Arguments) (name : Text) : List Text :=
  match arguments.values.lookup name with
  | some (.texts items) => Record.readBack items
  | _ => []

/-- The values of the flags that were set, as settings. -/
def settings (arguments : Arguments) : List (Text × Yaml.Value) :=
  arguments.values.map fun (name, value) =>
    (name,
      match value with
      | .text t => .text t
      | .bool b => .bool b
      | .texts items => .list ((Record.readBack items).map .text))

end Arguments

end DatePattern.Cli
