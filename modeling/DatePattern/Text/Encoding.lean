import DatePattern.Text.Basic

/-!
# Encodings of bytes

Ways of writing bytes and characters other than UTF-8:

- hexadecimal digits, written in lower case and read in either;
- base 64, four letters for every three bytes, the last group filled up with one or two equals
  signs;
- UTF-16, units of two bytes, where a character above U+FFFF takes two units.
-/

namespace DatePattern.Text

/-! ## Hexadecimal digits -/

/-- The lower-case hexadecimal digit of a number below 16. -/
def hexDigit (n : Nat) : UInt8 :=
  if n < 10 then UInt8.ofNat (0x30 + n) else UInt8.ofNat (0x61 + (n - 10))

/-- The last `width` hexadecimal digits of a number. -/
def hex : (width : Nat) → Nat → Text
  | 0, _ => []
  | width + 1, n => hexDigit (n / 16 ^ width % 16) :: hex width n

/-- The value of a hexadecimal digit. -/
def hexValue (b : UInt8) : Nat :=
  if b ≤ 0x39 then b.toNat - 0x30 else if 0x61 ≤ b then b.toNat - 0x57 else b.toNat - 0x37

/-- The number of hexadecimal digits. -/
def natOfHex (digits : Text) : Nat := digits.foldl (fun n b => n * 16 + hexValue b) 0

/-- The bytes of pairs of hexadecimal digits. -/
def ofHex : Text → Text
  | a :: b :: rest => UInt8.ofNat (hexValue a * 16 + hexValue b) :: ofHex rest
  | _ => []

/-- The bytes of a text, each as two hexadecimal digits. -/
def toHex (text : Text) : Text := text.flatMap fun b => hex 2 b.toNat

/-!
## Base 64

Line ends between the letters do not count, and bits that the last letter has beyond its byte may
be anything.
-/

/-- The value of a letter of base 64. -/
def base64Value? (b : UInt8) : Option Nat :=
  if 0x41 ≤ b && b ≤ 0x5A then some (b.toNat - 0x41)
  else if 0x61 ≤ b && b ≤ 0x7A then some (b.toNat - 0x61 + 26)
  else if 0x30 ≤ b && b ≤ 0x39 then some (b.toNat - 0x30 + 52)
  else if b = 0x2B then some 62
  else if b = 0x2F then some 63
  else none

/-- The bytes of groups of four letters, of which only the last may be filled up. -/
def base64Groups : Text → Option Text
  | [] => some []
  | [a, b, 0x3D, 0x3D] => do
    let x ← base64Value? a
    let y ← base64Value? b
    return [UInt8.ofNat (x * 4 + y / 16)]
  | [a, b, c, 0x3D] => do
    let x ← base64Value? a
    let y ← base64Value? b
    let z ← base64Value? c
    return [UInt8.ofNat (x * 4 + y / 16), UInt8.ofNat (y % 16 * 16 + z / 4)]
  | a :: b :: c :: d :: rest => do
    let x ← base64Value? a
    let y ← base64Value? b
    let z ← base64Value? c
    let w ← base64Value? d
    let more ← base64Groups rest
    return UInt8.ofNat (x * 4 + y / 16) :: UInt8.ofNat (y % 16 * 16 + z / 4)
      :: UInt8.ofNat (z % 4 * 64 + w) :: more
  | _ => none

/-- The bytes that a text in base 64 stands for. -/
def ofBase64? (text : Text) : Option Text :=
  base64Groups (text.filter fun b => b != 0x0A && b != 0x0D)

end DatePattern.Text

namespace DatePattern.Utf16

/-!
## UTF-16

A character above U+FFFF is a high surrogate and a low one; a surrogate that stands alone is a
fault.
-/

/-- The units of a text, the high byte of each first or last. -/
def units? (highFirst : Bool) : Text → Option (List Nat)
  | [] => some []
  | [_] => none
  | a :: b :: rest =>
    let unit := if highFirst then a.toNat * 256 + b.toNat else b.toNat * 256 + a.toNat
    (units? highFirst rest).map (unit :: ·)

/-- Whether a unit is the first of a pair. -/
def isHigh (unit : Nat) : Bool := 0xD800 ≤ unit && unit ≤ 0xDBFF

/-- Whether a unit is the second of a pair. -/
def isLow (unit : Nat) : Bool := 0xDC00 ≤ unit && unit ≤ 0xDFFF

/-- The characters of a list of units. -/
def charsOfUnits? : List Nat → Option (List Char)
  | [] => some []
  | [u] => if isHigh u || isLow u then none else some [Char.ofNat u]
  | u :: v :: rest =>
    if isHigh u then
      if isLow v then
        let code := 0x10000 + (u - 0xD800) * 0x400 + (v - 0xDC00)
        (charsOfUnits? rest).map (Char.ofNat code :: ·)
      else none
    else if isLow u then none
    else (charsOfUnits? (v :: rest)).map (Char.ofNat u :: ·)

/-- The characters of a text, the high byte of each unit first or last. -/
def chars? (highFirst : Bool) (text : Text) : Option (List Char) :=
  (units? highFirst text).bind charsOfUnits?

end DatePattern.Utf16
