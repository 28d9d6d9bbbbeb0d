import DatePattern.Text.Encoding
import DatePattern.Text.Utf8

/-!
# Reading positions

A YAML text is read as characters, in UTF-8 unless a byte order mark says otherwise. A cursor
is a place in it: what is left, the number of characters before it, and its line and column,
all counted from zero. Five characters end a line; a carriage return and a line feed together
end one line.
-/

namespace DatePattern.Yaml

/-- Why a text is not a YAML document that can be used. -/
inductive Fault where
  /-- The text is not well formed. -/
  | malformed
  /-- An alias names no node. -/
  | unknownAlias
  /-- A node lies inside itself. -/
  | circular
  /-- A mapping has a key twice. -/
  | duplicateKey
  /-- A value does not fit its place. -/
  | mismatch
  /-- Nearly all of the document is copies made by aliases. -/
  | excessive
  deriving DecidableEq, Repr

/-- Whether a character ends a line. -/
def isBreak (c : Char) : Bool :=
  c = '\n' || c = '\r' || c.toNat = 0x85 || c.toNat = 0x2028 || c.toNat = 0x2029

/-- Whether a character is a space or a tab. -/
def isSpace (c : Char) : Bool := c = ' ' || c = '\t'

/-- Whether there is no character here, or white space. -/
def isGap : Option Char → Bool
  | none => true
  | some c => isSpace c || isBreak c

/-- Whether a character may stand in a YAML text. -/
def isAllowed (c : Char) : Bool :=
  let n := c.toNat
  n = 0x09 || n = 0x0A || n = 0x0D || (0x20 ≤ n && n ≤ 0x7E) || n = 0x85
    || (0xA0 ≤ n && n ≤ 0xD7FF) || (0xE000 ≤ n && n ≤ 0xFFFD) || 0x10000 ≤ n

/-- The byte order mark. -/
def byteOrderMark : Char := Char.ofNat 0xFEFF

/-- The characters of a text in UTF-8. -/
def utf8Chars? (text : Text) : Option (List Char) :=
  if text.isUtf8 then some text.chars else none

/-- The characters of a text behind its byte order mark, if it has one, whatever their kind. -/
def encodedChars? : Text → Option (List Char)
  | 0xFF :: 0xFE :: rest => Utf16.chars? false rest
  | 0xFE :: 0xFF :: rest => Utf16.chars? true rest
  | 0xEF :: 0xBB :: 0xBF :: rest => utf8Chars? rest
  | text => utf8Chars? text

/-- The characters of a text, without a byte order mark at the front. -/
def charsOf (text : Text) : Except Fault (List Char) :=
  match encodedChars? text with
  | some chars => if chars.all isAllowed then .ok chars else .error .malformed
  | none => .error .malformed

/-- A place in a text. -/
structure Cursor where
  /-- What is left. -/
  rest : List Char
  /-- Characters read. -/
  index : Nat := 0
  /-- The line, from 0. -/
  line : Nat := 0
  /-- The column, from 0. -/
  column : Nat := 0

namespace Cursor

/-- The character `n` places ahead. -/
def peek (cursor : Cursor) (n : Nat) : Option Char := cursor.rest[n]?

/-- Passes `n` characters of one line. -/
def skip (cursor : Cursor) (n : Nat) : Cursor :=
  { cursor with
    rest := cursor.rest.drop n, index := cursor.index + n, column := cursor.column + n }

/-- Passes the characters up to the first that fails a test. -/
def skipWhile (cursor : Cursor) (p : Char → Bool) : Cursor :=
  cursor.skip (cursor.rest.takeWhile p).length

/-- Passes the end of a line, and gives the characters it stands for. -/
def takeBreak (cursor : Cursor) : List Char × Cursor :=
  match cursor.rest with
  | '\r' :: '\n' :: rest =>
    (['\n'], { rest, index := cursor.index + 2, line := cursor.line + 1, column := 0 })
  | c :: rest =>
    if isBreak c then
      ([if c.toNat = 0x2028 || c.toNat = 0x2029 then c else '\n'],
        { rest, index := cursor.index + 1, line := cursor.line + 1, column := 0 })
    else ([], cursor)
  | [] => ([], cursor)

/-- Whether a line starts here with a document marker made of `mark`. -/
def atMarker (cursor : Cursor) (mark : Char) : Bool :=
  cursor.column = 0 && cursor.rest.take 3 == [mark, mark, mark] && isGap (cursor.peek 3)

/-- Whether a line starts here with a document marker. -/
def atDocument (cursor : Cursor) : Bool := cursor.atMarker '-' || cursor.atMarker '.'

end Cursor

end DatePattern.Yaml
