/-!
# The proleptic Gregorian calendar

Dates carry astronomical years, so year 0 and negative years exist. Day 0 is 1 January
1970. `dayNumber` and `ofDayNumber` go between a date and its day number by counting from
1 March, the day after the leap day.
-/

namespace DatePattern

/-- A calendar date. -/
structure Date where
  /-- The astronomical year. -/
  year : Int
  /-- The month, 1 to 12. -/
  month : Nat
  /-- The day of the month, from 1. -/
  day : Nat
  deriving DecidableEq, Repr

namespace Date

/-- Whether a year has 366 days. -/
def isLeap (year : Int) : Bool :=
  year % 4 == 0 && (year % 100 != 0 || year % 400 == 0)

/-- The number of days of a month. -/
def monthLength (year : Int) (month : Nat) : Nat :=
  if month = 2 then if isLeap year then 29 else 28
  else if month = 4 ∨ month = 6 ∨ month = 9 ∨ month = 11 then 30
  else 31

/-- The year and the month counted from March, 0 to 11. -/
def fromMarch (year : Int) (month : Nat) : Int × Int :=
  if month ≤ 2 then (year - 1, (month : Int) + 9) else (year, (month : Int) - 3)

/-- The day number of the first of a month. -/
def firstOfMonth (year : Int) (month : Nat) : Int :=
  let (y, m) := fromMarch year month
  365 * y + y / 4 - y / 100 + y / 400 + (153 * m + 2) / 5 - 719468

/-- The day number of a date. -/
def dayNumber (date : Date) : Int := firstOfMonth date.year date.month + (date.day : Int) - 1

/-- The date of a day number. -/
def ofDayNumber (n : Int) : Date :=
  let shifted := n + 719468
  let era := shifted / 146097
  let dayOfEra := shifted % 146097
  let yearOfEra := (dayOfEra - dayOfEra / 1460 + dayOfEra / 36524 - dayOfEra / 146096) / 365
  let dayOfYear := dayOfEra - (365 * yearOfEra + yearOfEra / 4 - yearOfEra / 100)
  let m := (5 * dayOfYear + 2) / 153
  let day := dayOfYear - (153 * m + 2) / 5 + 1
  let year := yearOfEra + era * 400
  if m < 10 then ⟨year, (m + 3).toNat, day.toNat⟩ else ⟨year + 1, (m - 9).toNat, day.toNat⟩

/-- The weekday of a day number, 0 for Sunday. -/
def weekdayOf (n : Int) : Nat := ((n + 4) % 7).toNat

/-- The day of the year of a day number, from 0. -/
def yearDayOf (n : Int) : Nat := (n - firstOfMonth (ofDayNumber n).year 1).toNat

/-- The Thursday of the week, Monday to Sunday, that a day number lies in. -/
def thursdayOf (n : Int) : Int := n + 3 - (n + 3) % 7

/-- The year and number of the week that a day number lies in; a week belongs to the year of
its Thursday. -/
def weekOf (n : Int) : Int × Nat :=
  let thursday := thursdayOf n
  ((ofDayNumber thursday).year, yearDayOf thursday / 7 + 1)

end Date

end DatePattern
