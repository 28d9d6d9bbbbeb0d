import DatePattern.Number.Binary
import DatePattern.Number.Decimal

/-!
# Shortest decimal digits

A finite floating-point number is written with the fewest significant digits that read back
as the same number; of two such numerals the nearer one is taken. A decimal reads back as
the number when it lies in the interval half way to the neighbours, ends included when the
significand is even.

* `digits` finds the digits and the place of the decimal point;
* `plain` writes them without an exponent;
* `general` writes very small and very large numbers with an exponent.
-/

namespace DatePattern.Binary

/-- Significant digits of a positive number: `0.d₁d₂… · 10 ^ point`. -/
structure Digits where
  /-- The digits as a whole number without trailing zeros. -/
  value : Nat
  /-- The place of the decimal point before the first digit. -/
  point : Int
  deriving DecidableEq, Repr

/-- An interval of positive fractions over one denominator around a value. -/
structure Interval where
  /-- The lower end. -/
  low : Nat
  /-- The value itself. -/
  middle : Nat
  /-- The upper end. -/
  high : Nat
  /-- The common denominator. -/
  denominator : Nat
  /-- Whether the ends belong to the interval. -/
  closed : Bool

/-- The fractions that round to `significand · 2 ^ exponent`. -/
def roundingInterval (format : Format) (significand : Nat) (exponent : Int) : Interval :=
  let narrow := significand == Nat.pow 2 (format.precision - 1) && format.least < exponent
  let up := if 0 ≤ exponent then Nat.pow 2 exponent.toNat else 1
  let down := if 0 ≤ exponent then 1 else Nat.pow 2 (-exponent).toNat
  { low := (4 * significand - if narrow then 1 else 2) * up
    middle := 4 * significand * up
    high := (4 * significand + 2) * up
    denominator := 4 * down
    closed := significand % 2 == 0 }

/-- Whether `value · 10 ^ exponent` lies in the interval. -/
def Interval.holds (interval : Interval) (value : Nat) (exponent : Int) : Bool :=
  let up := if 0 ≤ exponent then Nat.pow 10 exponent.toNat else 1
  let down := if 0 ≤ exponent then 1 else Nat.pow 10 (-exponent).toNat
  let place := value * up * interval.denominator
  if interval.closed then interval.low * down ≤ place && place ≤ interval.high * down
  else interval.low * down < place && place < interval.high * down

/-- The whole number of units `10 ^ exponent` in the middle of the interval, and whether the
next one up is nearer. -/
def Interval.units (interval : Interval) (exponent : Int) : Nat × Bool :=
  let up := if 0 ≤ exponent then Nat.pow 10 exponent.toNat else 1
  let down := if 0 ≤ exponent then 1 else Nat.pow 10 (-exponent).toNat
  let top := interval.middle * down
  let bottom := interval.denominator * up
  (top / bottom, bottom < 2 * (top % bottom))

/-- The numeral with units `10 ^ exponent` that reads back, nearest first. -/
def Interval.onGrid? (interval : Interval) (exponent : Int) : Option Nat :=
  let (below, upNearer) := interval.units exponent
  let holdsBelow := interval.holds below exponent && below != 0
  let holdsAbove := interval.holds (below + 1) exponent
  if holdsBelow && (!upNearer || !holdsAbove) then some below
  else if holdsAbove then some (below + 1)
  else none

/-- The decimal place of the first digit of a positive fraction: the greatest `point` with
`10 ^ (point - 1)` not above it, searched downwards. -/
def pointOf (numerator denominator : Nat) : (fuel : Nat) → Int → Int
  | 0, point => point
  | fuel + 1, point =>
    let up := if 1 ≤ point then Nat.pow 10 (point - 1).toNat else 1
    let down := if 1 ≤ point then 1 else Nat.pow 10 (1 - point).toNat
    if denominator * up ≤ numerator * down then point
    else pointOf numerator denominator fuel (point - 1)

/-- Tries grids of more and more digits. -/
def Interval.search (interval : Interval) (point : Int) : (fuel count : Nat) → Digits
  | 0, count => ⟨(interval.units (point - count)).1, point⟩
  | fuel + 1, count =>
    match interval.onGrid? (point - count) with
    | some value => if value = Nat.pow 10 count then ⟨1, point + 1⟩ else ⟨value, point⟩
    | none => interval.search point fuel (count + 1)

/-- The fewest significant digits of the positive number `significand · 2 ^ exponent` that
read back. -/
def digits (format : Format) (significand : Nat) (exponent : Int) : Digits :=
  let interval := roundingInterval format significand exponent
  let guess : Int := ((interval.middle.log2 : Int) - interval.denominator.log2) * 30103 / 100000 + 2
  let point := pointOf interval.middle interval.denominator 5 guess
  interval.search point 17 1

/-- A number without exponent: whole digits, then a point and the rest if there is one. -/
def Digits.plain (d : Digits) : Text :=
  let numeral := Decimal.ofNat d.value
  if d.point ≤ 0 then "0." ++ Text.repeated (-d.point).toNat 0x30 ++ numeral
  else if numeral.length ≤ d.point.toNat then
    numeral ++ Text.repeated (d.point.toNat - numeral.length) 0x30
  else numeral.take d.point.toNat ++ "." ++ numeral.drop d.point.toNat

/-- A number with an exponent of at least two digits: `d.ddde+XX`. -/
def Digits.scientific (d : Digits) : Text :=
  let numeral := Decimal.ofNat d.value
  let exponent := d.point - 1
  numeral.take 1 ++ (if numeral.length = 1 then [] else "." ++ numeral.drop 1 : Text)
    ++ (if exponent < 0 then "e-" else "e+" : Text)
    ++ Decimal.padLeft 2 (Decimal.ofNat exponent.natAbs)

/-- A number written by `write`, with its sign. -/
def textWith (format : Format) (write : Digits → Text) : Binary → Text
  | .nan => "NaN"
  | .infinite negative => if negative then "-Inf" else "+Inf"
  | .finite negative significand exponent =>
    (if negative then "-" else "" : Text) ++
      (if significand = 0 then "0" else write (digits format significand exponent) : Text)

/-- A double-precision number without an exponent. -/
def plain (x : Binary) : Text := textWith double Digits.plain x

/-- A number of a format, with an exponent when its first digit stands more than four places
after the point or more than six before it. -/
def general (format : Format) (x : Binary) : Text :=
  textWith format
    (fun d => if d.point - 1 < -4 || 6 ≤ d.point - 1 then d.scientific else d.plain) x

end DatePattern.Binary
