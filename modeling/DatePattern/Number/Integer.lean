import DatePattern.Number.Decimal

/-!
# Reading 64-bit integers

Reading a signed integer of 64 bits, in decimal or in a base that the text itself marks.
A text is read from the left, and the first fault counts.
-/

namespace DatePattern.Integer

/-- Why a text is not a 64-bit integer. -/
inductive Fault where
  /-- A byte does not belong to a numeral, or there are no digits. -/
  | malformed
  /-- The number has more than 64 bits. -/
  | outOfRange
  deriving DecidableEq, Repr

/-- The wording of a fault. -/
def Fault.message : Fault → Text
  | .malformed => "invalid syntax"
  | .outOfRange => "value out of range"

/-- The value of a digit in bases up to 36. -/
def digitOf? (b : UInt8) : Option Nat :=
  if 0x30 ≤ b && b ≤ 0x39 then some (b.toNat - 0x30)
  else if 0x61 ≤ b && b ≤ 0x7A then some (b.toNat - 0x57)
  else if 0x41 ≤ b && b ≤ 0x5A then some (b.toNat - 0x37)
  else none

/-- The number of a run of digits in a base, read after `value`. -/
def magnitudeFrom (base value : Nat) : Text → Except Fault Nat
  | [] => .ok value
  | b :: rest =>
    match digitOf? b with
    | none => .error .malformed
    | some d =>
      if base ≤ d then .error .malformed
      else if Nat.pow 2 64 ≤ value * base + d then .error .outOfRange
      else magnitudeFrom base (value * base + d) rest

/-- A number with a sign in 64 bits. -/
def signed (negative : Bool) (n : Nat) : Except Fault Int :=
  if negative then if n ≤ Nat.pow 2 63 then .ok (-(n : Int)) else .error .outOfRange
  else if n < Nat.pow 2 63 then .ok n else .error .outOfRange

/-- The integer of a decimal numeral with an optional sign. -/
def ofDecimal (text : Text) : Except Fault Int := do
  let (negative, digits) := Decimal.splitSign text
  if digits.isEmpty then throw .malformed
  signed negative (← magnitudeFrom 10 0 digits)

/-- The base that the front of a numeral marks, and the digits after the mark. A zero alone
in front marks octal. -/
def splitBase (text : Text) : Nat × Text :=
  match text with
  | 0x30 :: mark :: d :: rest =>
    if mark = 0x62 || mark = 0x42 then (2, d :: rest)
    else if mark = 0x6F || mark = 0x4F then (8, d :: rest)
    else if mark = 0x78 || mark = 0x58 then (16, d :: rest)
    else (8, mark :: d :: rest)
  | 0x30 :: rest => (8, rest)
  | _ => (10, text)

/-- Whether each underscore of a numeral stands between two digits, where a mark of the base
counts as a digit. -/
def underscoresOk (base : Nat) (afterDigit : Bool) : Text → Bool
  | [] => true
  | 0x5F :: b :: rest =>
    afterDigit && (match digitOf? b with
      | some d => decide (d < base)
      | none => false) && underscoresOk base true rest
  | [0x5F] => false
  | _ :: rest => underscoresOk base true rest

/-- The integer of a numeral with an optional sign and an optional mark of its base; digits
may be parted by underscores. -/
def ofMarked (text : Text) : Except Fault Int := do
  let (negative, numeral) := Decimal.splitSign text
  if numeral.isEmpty then throw .malformed
  let (base, digits) := splitBase numeral
  let n ← magnitudeFrom base 0 (digits.filter (· != 0x5F))
  if underscoresOk base (base != 10) digits then signed negative n else throw .malformed

end DatePattern.Integer
