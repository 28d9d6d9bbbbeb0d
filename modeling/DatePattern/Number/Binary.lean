/-!
# Binary floating point

A finite number is a sign, a significand and a power of two; zero keeps its sign. The two
formats are single and double precision, and a quotient of whole numbers rounds to the
nearest number of a format, an exact half going to the even significand.
-/

namespace DatePattern

/-- A floating-point number. -/
inductive Binary where
  /-- The number `±significand · 2 ^ exponent`. -/
  | finite (negative : Bool) (significand : Nat) (exponent : Int)
  /-- An infinity. -/
  | infinite (negative : Bool)
  /-- Not a number. -/
  | nan
  deriving DecidableEq, Repr

namespace Binary

/-- A binary interchange format. -/
structure Format where
  /-- Bits of a full significand. -/
  precision : Nat
  /-- The exponent of the smallest positive number. -/
  least : Int
  /-- The exponent of the greatest number with a full significand. -/
  greatest : Int

/-- Single precision. -/
def single : Format := ⟨24, -149, 104⟩

/-- Double precision. -/
def double : Format := ⟨53, -1074, 971⟩

/-- The number that a double-precision word stands for. -/
def ofBits (word : UInt64) : Binary :=
  let n := word.toNat
  let negative := n / Nat.pow 2 63 == 1
  let exponent : Nat := n / Nat.pow 2 52 % Nat.pow 2 11
  let fraction : Nat := n % Nat.pow 2 52
  if exponent = 2047 then
    if fraction = 0 then .infinite negative else .nan
  else if exponent = 0 then .finite negative fraction double.least
  else .finite negative (Nat.pow 2 52 + fraction) ((exponent : Int) - 1075)

/-- `numerator / denominator` as a whole number, an exact half going to the even one. -/
def roundHalfEven (numerator denominator : Nat) : Nat :=
  let quotient := numerator / denominator
  let double := 2 * (numerator % denominator)
  if double < denominator then quotient
  else if double = denominator then quotient + quotient % 2
  else quotient + 1

/-- `numerator / (denominator · 2 ^ exponent)` as a fraction. -/
def scaled (numerator denominator : Nat) (exponent : Int) : Nat × Nat :=
  if 0 ≤ exponent then (numerator, denominator * Nat.pow 2 exponent.toNat)
  else (numerator * Nat.pow 2 (-exponent).toNat, denominator)

/-- The exponent that gives a positive fraction a full significand, or the least one. -/
def exponentOf (format : Format) (numerator denominator : Nat) : Int :=
  let guess : Int := (numerator.log2 : Int) - denominator.log2 - (format.precision - 1 : Nat)
  let (top, bottom) := scaled numerator denominator guess
  let exact := if top < bottom * Nat.pow 2 (format.precision - 1) then guess - 1 else guess
  max exact format.least

/-- The number of a format nearest to a fraction. -/
def ofFraction (format : Format) (negative : Bool) (numerator denominator : Nat) : Binary :=
  if numerator = 0 then .finite negative 0 format.least
  else
    let exponent := exponentOf format numerator denominator
    let (top, bottom) := scaled numerator denominator exponent
    let significand := roundHalfEven top bottom
    let (significand, exponent) :=
      if significand = Nat.pow 2 format.precision then (significand / 2, exponent + 1)
      else (significand, exponent)
    if format.greatest < exponent then .infinite negative
    else .finite negative significand exponent

/-- The number of a format nearest to `±digits · 10 ^ exponent`. A number far outside the
range of the format is infinite or zero without being written out. -/
def ofDecimal (format : Format) (negative : Bool) (digits : Nat) (exponent : Int) : Binary :=
  if digits = 0 then .finite negative 0 format.least
  else if 400 < exponent then .infinite negative
  else if exponent + (digits.log2 : Int) < -1200 then .finite negative 0 format.least
  else if 0 ≤ exponent then ofFraction format negative (digits * Nat.pow 10 exponent.toNat) 1
  else ofFraction format negative digits (Nat.pow 10 (-exponent).toNat)

/-- The whole part of a finite number, toward zero. -/
def truncated? : Binary → Option Int
  | .finite negative significand exponent =>
    let magnitude : Nat :=
      if 0 ≤ exponent then significand * Nat.pow 2 exponent.toNat
      else significand / Nat.pow 2 (-exponent).toNat
    some (if negative then -(magnitude : Int) else magnitude)
  | _ => none

end Binary

end DatePattern
