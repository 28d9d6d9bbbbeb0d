import DatePattern.Number.Decimal

/-!
# Matching results

An engine may answer a whole number with a fraction of zeros. Such an answer matches the
reference when it is the same number; otherwise only equal texts match. A reference counts as a whole
number when it has no point and is the text that its own number is written as.
-/

namespace DatePattern.Verify

/-- A decimal number `digits · 10 ^ exponent`. -/
structure Numeral where
  digits : Int
  exponent : Int
  deriving DecidableEq, Repr

/-- Whether an integer fits 32 bits. -/
def fitsWord (n : Int) : Bool := -2147483648 ≤ n && n ≤ 2147483647

/-- Splits an exponent off a number text: the text before the first `e`, and the exponent. -/
def splitExponent (text : Text) : Option (Text × Int) :=
  let isMark (b : UInt8) : Bool := b = 0x65 || b = 0x45
  match text.dropWhile (!isMark ·) with
  | [] => some (text, 0)
  | _ :: exponent =>
    match Decimal.toInt? exponent with
    | some n => if fitsWord n then some (text.takeWhile (!isMark ·), n) else none
    | none => none

/-- Reads a decimal number: digits with at most one point, an optional sign, an optional
exponent of 32 bits. -/
def Numeral.parse? (text : Text) : Option Numeral := do
  let (mantissa, exponent) ← splitExponent text
  let segments := mantissa.splitAtByte 0x2E
  match segments with
  | [whole] => return ⟨← Decimal.toInt? whole, exponent⟩
  | [whole, fraction] =>
    let digits ← Decimal.toInt? (whole ++ fraction)
    let exponent := exponent - fraction.length
    if fitsWord exponent then return ⟨digits, exponent⟩ else none
  | _ => none

namespace Numeral

/-- The numeral at another exponent. Digits that get no place there are cut off. -/
def rescale (numeral : Numeral) (exponent : Int) : Numeral :=
  if numeral.exponent < exponent then
    ⟨numeral.digits.tdiv (Int.pow 10 (exponent - numeral.exponent).toNat), exponent⟩
  else ⟨numeral.digits * Int.pow 10 (numeral.exponent - exponent).toNat, exponent⟩

/-- The numeral without its fraction. -/
def truncate (numeral : Numeral) : Numeral :=
  if numeral.exponent < 0 then numeral.rescale 0 else numeral

/-- Whether two numerals have the same digits at the smaller of their exponents. -/
def equals (a b : Numeral) : Bool :=
  (a.rescale (min a.exponent b.exponent)).digits == (b.rescale (min a.exponent b.exponent)).digits

/-- The digits of a numeral with as many places behind the point as its exponent asks for, and at
least one before it. -/
def padded (numeral : Numeral) : Text :=
  Decimal.padLeft ((-numeral.exponent).toNat + 1) (Decimal.ofNat numeral.digits.natAbs)

/-- The digits behind the point, without zeros at the end. -/
def fraction (numeral : Numeral) : Text :=
  Text.trimRightWhile (· = 0x30)
    (numeral.padded.drop (numeral.padded.length - (-numeral.exponent).toNat))

/-- The text of a numeral, without an exponent. A point is written only before a fraction. -/
def text (numeral : Numeral) : Text :=
  if 0 ≤ numeral.exponent then Decimal.ofInt (numeral.rescale 0).digits
  else
    (if numeral.digits < 0 then "-" else [] : Text)
      ++ numeral.padded.take (numeral.padded.length - (-numeral.exponent).toNat)
      ++ (if numeral.fraction.isEmpty then [] else "." ++ numeral.fraction : Text)

end Numeral

/-- Whether an engine's result matches the reference. -/
def isMatch (want got : Text) : Bool :=
  if want = got then true
  else if !got.contains 0x2E || want.contains 0x2E then false
  else
    match Numeral.parse? want with
    | none => false
    | some reference =>
      if reference.text ≠ want then false
      else
        match Numeral.parse? got with
        | none => false
        | some result => result.equals result.truncate && result.equals reference

end DatePattern.Verify
