import DatePattern.Text.Basic

/-!
# UTF-8

Every text decodes to a list of symbols: a character, or a stray byte that begins no
well-formed encoding. A stray byte is one symbol by itself and reading goes on at the
next byte. Decoding loses nothing: writing the symbols back gives the text.

Well-formed means the usual table: shortest forms only, no surrogates, nothing above
U+10FFFF.
-/

namespace DatePattern

/-- One unit of a decoded text. -/
inductive Symbol where
  /-- A well-formed character. -/
  | char (c : Char)
  /-- A byte that begins no well-formed character. -/
  | stray (b : UInt8)
  deriving DecidableEq, Repr

namespace Symbol

/-- The bytes of a symbol. -/
def bytes : Symbol → Text
  | .char c => String.utf8EncodeChar c
  | .stray b => [b]

/-- How many bytes a symbol takes. -/
def size : Symbol → Nat
  | .char c => c.utf8Size
  | .stray _ => 1

/-- U+FFFD, the character shown for a stray byte. -/
def replacement : Char := Char.ofNat 0xFFFD

/-- The character a symbol is read as. -/
def toChar : Symbol → Char
  | .char c => c
  | .stray _ => replacement

end Symbol

namespace Utf8

/-- Whether a byte continues a character: `10xxxxxx`. -/
def isTail (b : UInt8) : Bool := 0x80 ≤ b && b ≤ 0xBF

/-- The six payload bits of a continuation byte. -/
def tailBits (b : UInt8) : Nat := b.toNat - 0x80

/-- The least and greatest second byte after a lead byte of a longer character. -/
def secondRange (lead : UInt8) : UInt8 × UInt8 :=
  if lead = 0xE0 then (0xA0, 0xBF)
  else if lead = 0xED then (0x80, 0x9F)
  else if lead = 0xF0 then (0x90, 0xBF)
  else if lead = 0xF4 then (0x80, 0x8F)
  else (0x80, 0xBF)

/-- Whether a byte may follow a lead byte. -/
def isSecond (lead b : UInt8) : Bool :=
  (secondRange lead).1 ≤ b && b ≤ (secondRange lead).2

/-- The symbol that starts with byte `a`, when `rest` follows it. -/
def first (a : UInt8) (rest : Text) : Symbol :=
  if a < 0x80 then .char (Char.ofNat a.toNat)
  else if a < 0xC2 then .stray a
  else if a < 0xE0 then
    match rest with
    | b :: _ =>
      if isTail b then .char (Char.ofNat ((a.toNat - 0xC0) * 64 + tailBits b)) else .stray a
    | [] => .stray a
  else if a < 0xF0 then
    match rest with
    | b :: c :: _ =>
      if isSecond a b && isTail c then
        .char (Char.ofNat (((a.toNat - 0xE0) * 64 + tailBits b) * 64 + tailBits c))
      else .stray a
    | _ => .stray a
  else if a < 0xF5 then
    match rest with
    | b :: c :: d :: _ =>
      if isSecond a b && isTail c && isTail d then
        .char (Char.ofNat
          ((((a.toNat - 0xF0) * 64 + tailBits b) * 64 + tailBits c) * 64 + tailBits d))
      else .stray a
    | _ => .stray a
  else .stray a

/-- The symbols of a text after `skip` bytes of a symbol already read. -/
def symbolsFrom : (skip : Nat) → Text → List Symbol
  | _, [] => []
  | skip + 1, _ :: rest => symbolsFrom skip rest
  | 0, a :: rest => first a rest :: symbolsFrom ((first a rest).size - 1) rest

/-- The offset of the first stray byte, counting from `offset` after `skip` bytes of a
symbol already read. -/
def strayFrom : (offset skip : Nat) → Text → Option Nat
  | _, _, [] => none
  | offset, skip + 1, _ :: rest => strayFrom (offset + 1) skip rest
  | offset, 0, a :: rest =>
    match first a rest with
    | .stray _ => some offset
    | .char c => strayFrom (offset + 1) (c.utf8Size - 1) rest

/-- The characters of a text with their offsets, counting from `offset` after `skip` bytes of
a symbol already read; a stray byte reads as U+FFFD. -/
def placedFrom : (offset skip : Nat) → Text → List (Nat × Char)
  | _, _, [] => []
  | offset, skip + 1, _ :: rest => placedFrom (offset + 1) skip rest
  | offset, 0, a :: rest =>
    (offset, (first a rest).toChar) :: placedFrom (offset + 1) ((first a rest).size - 1) rest

end Utf8

namespace Text

/-- The symbols of a text, left to right. -/
def symbols (text : Text) : List Symbol := Utf8.symbolsFrom 0 text

/-- The bytes of a list of symbols. -/
def ofSymbols (symbols : List Symbol) : Text := symbols.flatMap Symbol.bytes

/-- The characters of a text; a stray byte reads as U+FFFD. -/
def chars (text : Text) : List Char := text.symbols.map Symbol.toChar

/-- The UTF-8 bytes of a list of characters. -/
def ofChars (chars : List Char) : Text := chars.flatMap String.utf8EncodeChar

/-- The UTF-8 bytes of one character. -/
def ofChar (c : Char) : Text := String.utf8EncodeChar c

/-- The number of characters, a stray byte counting as one. -/
def charCount (text : Text) : Nat := text.symbols.length

/-- The characters of a text, each with its byte offset; a stray byte reads as U+FFFD. -/
def placedChars (text : Text) : List (Nat × Char) := Utf8.placedFrom 0 0 text

/-- How many bytes the first symbol of a text takes, 0 when the text is empty. -/
def firstSize : Text → Nat
  | [] => 0
  | a :: rest => (Utf8.first a rest).size

/-- The byte offset of the first stray byte, if there is one. -/
def firstStray? (text : Text) : Option Nat := Utf8.strayFrom 0 0 text

/-- Whether a text is well-formed UTF-8. -/
def isUtf8 (text : Text) : Bool := text.firstStray?.isNone

/-- The string a well-formed text encodes. -/
def toString? (text : Text) : Option String :=
  if text.isUtf8 then some (String.ofList text.chars) else none

end Text

end DatePattern
