import DatePattern.Text.Basic

/-!
# Decimal numerals

Writing and reading whole numbers in decimal. A numeral has no leading zero unless it is
padded to a width; zero is written `0`.
-/

namespace DatePattern.Decimal

/-- The ASCII digit of a number below ten. -/
def digit (n : Nat) : UInt8 := UInt8.ofNat (0x30 + n)

/-- Whether a byte is an ASCII digit. -/
def isDigit (b : UInt8) : Bool := 0x30 ≤ b && b ≤ 0x39

/-- The value of an ASCII digit. -/
def digitValue (b : UInt8) : Nat := b.toNat - 0x30

/-- The numeral of `n`, given at least as much fuel as it has digits. -/
def ofNatFuel : (fuel : Nat) → Nat → Text
  | 0, n => [digit (n % 10)]
  | fuel + 1, n =>
    if n < 10 then [digit n] else ofNatFuel fuel (n / 10) ++ [digit (n % 10)]

/-- The numeral of a natural number. -/
def ofNat (n : Nat) : Text := ofNatFuel n n

/-- The numeral of an integer, with a minus sign in front when it is negative. -/
def ofInt : Int → Text
  | .ofNat n => ofNat n
  | .negSucc n => "-" ++ ofNat (n + 1)

/-- A text with zeros in front of it up to a width in bytes. -/
def padLeft (width : Nat) (text : Text) : Text :=
  Text.repeated (width - text.length) 0x30 ++ text

/-- The number that a run of digits stands for, read after the digits of `value`. -/
def valueFrom (value : Nat) : Text → Nat
  | [] => value
  | b :: rest => valueFrom (value * 10 + digitValue b) rest

/-- The number that a non-empty run of digits stands for. -/
def toNat? (text : Text) : Option Nat :=
  if !text.isEmpty && text.all isDigit then some (valueFrom 0 text) else none

/-- Splits a sign off a text: whether it was a minus, and the rest. -/
def splitSign : Text → Bool × Text
  | 0x2B :: rest => (false, rest)
  | 0x2D :: rest => (true, rest)
  | text => (false, text)

/-- The integer of an optional sign and a non-empty run of digits. -/
def toInt? (text : Text) : Option Int :=
  let (negative, digits) := splitSign text
  (toNat? digits).map fun n => if negative then -(n : Int) else n

end DatePattern.Decimal
