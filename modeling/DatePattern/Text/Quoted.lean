import DatePattern.Text.Encoding
import DatePattern.Text.Printable
import DatePattern.Text.Utf8

/-!
# Quoted text

Messages show user text between quotes. Printable characters stand as they are, the quote
and the backslash are escaped, the seven common controls have short names, and everything
else is written by its number: a byte as `\xNN`, a character as `\uNNNN` or `\UNNNNNNNN`.
-/

namespace DatePattern.Text

/-- The short name of a control character, the letter after its backslash. -/
def controlName? (c : Char) : Option Char :=
  match c.toNat with
  | 0x07 => some 'a'
  | 0x08 => some 'b'
  | 0x09 => some 't'
  | 0x0A => some 'n'
  | 0x0B => some 'v'
  | 0x0C => some 'f'
  | 0x0D => some 'r'
  | _ => none

/-- A character inside quotes of the given kind. -/
def quotedChar (mark c : Char) : Text :=
  if c = mark ∨ c = '\\' then 0x5C :: ofChar c
  else if CharClass.isPrintable c then ofChar c
  else
    match controlName? c with
    | some name => [0x5C, byte name]
    | none =>
      if c.toNat < 0x80 then "\\x" ++ hex 2 c.toNat
      else if c.toNat < 0x10000 then "\\u" ++ hex 4 c.toNat
      else "\\U" ++ hex 8 c.toNat

/-- A symbol inside quotes of the given kind. -/
def quotedSymbol (mark : Char) : Symbol → Text
  | .char c => quotedChar mark c
  | .stray b => "\\x" ++ hex 2 b.toNat

/-- A text between double quotes. -/
def quoted (text : Text) : Text :=
  "\"" ++ text.symbols.flatMap (quotedSymbol '"') ++ "\""

/-- A character between single quotes. -/
def quotedAlone (c : Char) : Text := "'" ++ quotedChar '\'' c ++ "'"

end DatePattern.Text
