import DatePattern.Number.Decimal
import DatePattern.Text.Basic
import DatePattern.Text.Quoted
import DatePattern.Text.Utf8

/-!
# Patterns

A format is accepted when it is well-formed UTF-8 and holds no rejected character outside
an escape. The first fault decides the error: a stray byte before any rejected character,
then the leftmost rejected one. A `Pattern` is a format that is accepted.
-/

namespace DatePattern

/-!
## Tokens

A format is read one character at a time. A backslash makes the next character literal; a
backslash at the very end is itself a literal. Every token keeps the text it was read from
and the number of characters before it.
-/

/-- One logical character of a format. -/
structure Token where
  /-- The character, without its backslash. -/
  text : Text
  /-- The part of the format that the token was read from. -/
  raw : Text
  /-- Whether the character was escaped. -/
  literal : Bool
  /-- The number of characters before the token. -/
  pos : Int
  deriving DecidableEq, Repr

namespace Token

/-- The first character of a token, or NUL when it has none. -/
def char (token : Token) : Char := token.text.chars.headD (Char.ofNat 0)

/-- An unescaped character. -/
def plain (c : Char) (pos : Nat) : Token := ⟨Text.ofChar c, Text.ofChar c, false, pos⟩

/-- A character behind a backslash. -/
def escaped (c : Char) (pos : Nat) : Token := ⟨Text.ofChar c, Text.ofChars ['\\', c], true, pos⟩

/-- A backslash with nothing behind it. -/
def trailing (pos : Nat) : Token := ⟨"\\", "\\", true, pos⟩

/-- The tokens of the characters that stand after `pos` others. -/
def ofCharsFrom (pos : Nat) : List Char → List Token
  | [] => []
  | [c] => [if c = '\\' then trailing pos else plain c pos]
  | c :: d :: rest =>
    if c = '\\' then escaped d pos :: ofCharsFrom (pos + 2) rest
    else plain c pos :: ofCharsFrom (pos + 1) (d :: rest)

/-- The tokens of a format, left to right; a stray byte is read as U+FFFD. -/
def tokenize (format : Text) : List Token := ofCharsFrom 0 format.chars

end Token

end DatePattern

namespace DatePattern.Charset

/-!
## Format characters

Every letter of a format is one of three kinds: supported by every engine, rejected
everywhere because some engine has no faithful rendering of it, or copied as it is.
-/

/-- The format characters that every engine can produce. -/
def supported : List Char :=
  ['d', 'D', 'j', 'l', 'w', 'W', 'F', 'm', 'M', 'n', 't', 'o', 'Y', 'y', 'a', 'A', 'g', 'G',
    'h', 'H', 'i', 's', 'U']

/-- The format characters that are rejected on every engine. -/
def unsupported : List Char :=
  ['B', 'c', 'e', 'I', 'L', 'N', 'O', 'P', 'p', 'r', 'S', 'T', 'u', 'v', 'X', 'x', 'z', 'Z']

/-- Whether a character is rejected. -/
def isUnsupported (c : Char) : Bool := unsupported.contains c

/-- The meaning of a format character, empty for a character that is copied. -/
def meaning : Char → Text
  | 'd' => "day of month, 2 digits (01-31)"
  | 'D' => "day of week, 3 letters (Mon-Sun)"
  | 'j' => "day of month (1-31)"
  | 'l' => "day of week (Sunday-Saturday)"
  | 'w' => "day of week number (0=Sunday-6)"
  | 'W' => "ISO week number (01-53)"
  | 'F' => "month name (January-December)"
  | 'm' => "month, 2 digits (01-12)"
  | 'M' => "month, 3 letters (Jan-Dec)"
  | 'n' => "month (1-12)"
  | 't' => "days in month (28-31)"
  | 'o' => "ISO week-numbering year"
  | 'Y' => "year, 4 digits"
  | 'y' => "year, 2 digits"
  | 'a' => "am/pm"
  | 'A' => "AM/PM"
  | 'g' => "hour, 12-hour clock (1-12)"
  | 'G' => "hour, 24-hour clock (0-23)"
  | 'h' => "hour, 12-hour clock, 2 digits (01-12)"
  | 'H' => "hour, 24-hour clock, 2 digits (00-23)"
  | 'i' => "minutes, 2 digits (00-59)"
  | 's' => "seconds, 2 digits (00-59)"
  | 'U' => "seconds since the Unix epoch"
  | 'B' => "Swatch internet time"
  | 'c' => "ISO 8601 date"
  | 'e' => "timezone identifier"
  | 'I' => "daylight saving flag"
  | 'L' => "leap year flag"
  | 'N' => "ISO day of week (1-7)"
  | 'O' => "UTC offset (+0200)"
  | 'P' => "UTC offset (+02:00)"
  | 'p' => "UTC offset or Z"
  | 'r' => "RFC 2822 date"
  | 'S' => "English ordinal suffix"
  | 'T' => "timezone abbreviation"
  | 'u' => "microseconds"
  | 'v' => "milliseconds"
  | 'X' => "expanded year"
  | 'x' => "expanded year if needed"
  | 'z' => "day of year (0-365)"
  | 'Z' => "UTC offset in seconds"
  | _ => []

end DatePattern.Charset

namespace DatePattern

/-! ## Acceptance -/

/-- Why a format is not accepted. -/
inductive PatternError where
  /-- The byte at this offset begins no character. -/
  | strayByte (offset : Nat)
  /-- The format is not UTF-8, and no byte is named for it. -/
  | notUtf8
  /-- A rejected character stands at this position. -/
  | unsupported (char : Char) (pos : Int)
  deriving DecidableEq, Repr

/-- The wording of a pattern error. -/
def PatternError.message : PatternError → Text
  | .strayByte offset =>
    "format string is not valid UTF-8: invalid byte at offset " ++ Decimal.ofNat offset
  | .notUtf8 => "format string is not valid UTF-8"
  | .unsupported char pos =>
    "unsupported format character " ++ Text.quotedAlone char ++ " at position "
      ++ Decimal.ofInt pos ++ "\nHint: escape it with a backslash to emit it literally"

namespace Pattern

/-- Whether a character read at an offset stands for a stray byte. Such a byte is read as
U+FFFD, but so is U+FFFD itself, which takes three bytes. -/
def standsForStray (format : Text) (placed : Nat × Char) : Bool :=
  placed.2 = Symbol.replacement && Text.firstSize (format.drop placed.1) = 1

/-- Checks that a format is well-formed UTF-8, and looks for the first stray byte when it is
not. -/
def checkEncoding (format : Text) : Except PatternError Unit :=
  if format.isUtf8 then .ok ()
  else
    match format.placedChars.find? (standsForStray format) with
    | some placed => .error (.strayByte placed.1)
    | none => .error .notUtf8

/-- The error of a token that is a rejected character. -/
def fault? (token : Token) : Option PatternError :=
  if !token.literal && Charset.isUnsupported token.char then
    some (.unsupported token.char token.pos)
  else none

/-- Checks a format without choosing an engine. -/
def validate (format : Text) : Except PatternError Unit := do
  checkEncoding format
  match (Token.tokenize format).findSome? fault? with
  | some e => .error e
  | none => .ok ()

end Pattern

/-- A format that is accepted. -/
structure Pattern where
  /-- The format itself. -/
  format : Text
  /-- It passes the check. -/
  accepted : Pattern.validate format = .ok ()

/-- The pattern of a format, or why it is not one. -/
def Pattern.parse (format : Text) : Except PatternError Pattern :=
  match h : Pattern.validate format with
  | .ok () => .ok ⟨format, h⟩
  | .error e => .error e

end DatePattern
