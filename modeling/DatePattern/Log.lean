import DatePattern.Number.Decimal
import DatePattern.Number.Integer
import DatePattern.Text.Case
import DatePattern.Text.Quoted

/-!
# Logs

A log line is a level, a message and attributes, each written `key=value`. A text is quoted
when it is empty or holds a space, an equals sign, a double quote, a control, a stray byte
or a character that is not printable; a backslash needs no quotes.
-/

namespace DatePattern.Log

/-! ## Lines -/

/-- Whether a symbol puts a text between quotes. -/
def needsQuotes : Symbol → Bool
  | .stray _ => true
  | .char c =>
    if c.toNat < 0x80 then c = ' ' || c = '=' || c = '"' || c.toNat < 0x20
    else c = Symbol.replacement || CharClass.isBlank c || !CharClass.isPrintable c

/-- A text of a log line. -/
def word (text : Text) : Text :=
  if text.isEmpty || text.symbols.any needsQuotes then text.quoted else text

/-- The severity of a message. -/
structure Level where
  /-- Higher is more severe. -/
  value : Int
  deriving DecidableEq, Repr

/-- For the detail of a program's work. -/
def Level.debug : Level := ⟨-4⟩

/-- For the normal course of a program. -/
def Level.info : Level := ⟨0⟩

/-- For what may be a fault. -/
def Level.warn : Level := ⟨4⟩

/-- For what is a fault. -/
def Level.error : Level := ⟨8⟩

/-- A level's name: the next lower named level and the distance from it. -/
def Level.name (level : Level) : Text :=
  let above (base : Text) (start : Int) : Text :=
    if level.value = start then base
    else if level.value < start then base ++ Decimal.ofInt (level.value - start)
    else base ++ "+" ++ Decimal.ofInt (level.value - start)
  if level.value < 0 then above "DEBUG" (-4)
  else if level.value < 4 then above "INFO" 0
  else if level.value < 8 then above "WARN" 4
  else above "ERROR" 8

/-- Attributes from alternating keys and values; a last key without a value is itself the
value of a marker. -/
def pairs : List Text → List (Text × Text)
  | [] => []
  | [key] => [("!BADKEY", key)]
  | key :: value :: rest => (key, value) :: pairs rest

/-- One attribute of a line, with the space before it. -/
def pairText (pair : Text × Text) : Text := " " ++ word pair.1 ++ "=" ++ word pair.2

/-- One line of a log. -/
def line (level : Level) (message : Text) (attributes : List (Text × Text)) : Text :=
  "level=" ++ level.name ++ " msg=" ++ word message ++ attributes.flatMap pairText ++ "\n"

/-!
## Reading levels

A level is named, in any case, and may be moved by a signed number: `info`, `WARN-1`,
`debug+2`. The number is read first.
-/

/-- Why a text names no level. -/
inductive LevelError where
  | unknownName (text : Text)
  /-- The number after the name cannot be read. -/
  | badOffset (text offset : Text) (fault : Integer.Fault)
  deriving DecidableEq, Repr

/-- The wording of a level error. -/
def LevelError.message : LevelError → Text
  | .unknownName text => "slog: level string " ++ text.quoted ++ ": unknown name"
  | .badOffset text offset fault =>
    "slog: level string " ++ text.quoted ++ ": strconv.Atoi: parsing " ++ offset.quoted ++ ": "
      ++ fault.message

/-- The level of a name. -/
def Level.named? (name : Text) : Option Level :=
  let upper := name.upper
  if upper = "DEBUG" then some .debug
  else if upper = "INFO" then some .info
  else if upper = "WARN" then some .warn
  else if upper = "ERROR" then some .error
  else none

/-- Whether a byte starts the number of a level. -/
def isOffsetSign (b : UInt8) : Bool := b = 0x2B || b = 0x2D

/-- The level that a text names. Levels have 64 bits. -/
def Level.parse (text : Text) : Except LevelError Level := do
  let name := text.takeWhile (!isOffsetSign ·)
  let offset := text.dropWhile (!isOffsetSign ·)
  let moved ←
    if offset.isEmpty then pure 0
    else (Integer.ofDecimal offset).mapError (.badOffset text offset)
  match Level.named? name with
  | some level => return ⟨Int.bmod (level.value + moved) (Nat.pow 2 64)⟩
  | none => throw (.unknownName text)

end DatePattern.Log
