import DatePattern.Calendar.Moment
import DatePattern.Pattern.Basic

/-!
# The reference renderer

What a format means: the text it gives for a moment, without any SQL. Compiled SQL is
checked against it. Escaping and the rejected characters are those of the patterns.
-/

namespace DatePattern.Reference

/-- A number with zeros in front up to a width; a minus sign counts as a digit. -/
def padded (width : Nat) (n : Int) : Text := Decimal.padLeft width (Decimal.ofInt n)

/-- The name of a weekday, 0 for Sunday. -/
def weekdayName : Nat → Text
  | 0 => "Sunday"
  | 1 => "Monday"
  | 2 => "Tuesday"
  | 3 => "Wednesday"
  | 4 => "Thursday"
  | 5 => "Friday"
  | _ => "Saturday"

/-- The name of a month, 1 for January. -/
def monthName : Nat → Text
  | 1 => "January"
  | 2 => "February"
  | 3 => "March"
  | 4 => "April"
  | 5 => "May"
  | 6 => "June"
  | 7 => "July"
  | 8 => "August"
  | 9 => "September"
  | 10 => "October"
  | 11 => "November"
  | _ => "December"

/-- The number of days in the month of a moment: the day of the month at midnight of the day before
the first of the next month, in the zone of the moment. -/
def daysInMonth (t : Moment) : Nat :=
  (Moment.ofClockIn t.zone t.date.year (t.date.month + 1) 0 0 0 0 0).date.day

/-- The hour of the half day, 1 to 12. -/
def hourOfTwelve (t : Moment) : Nat := if t.hour % 12 = 0 then 12 else t.hour % 12

/-- The text of a format character for a moment; none for a character that is copied. -/
def char? (t : Moment) (c : Char) : Option Text :=
  match c with
  | 'd' => some (padded 2 t.date.day)
  | 'D' => some ((weekdayName t.weekday).take 3)
  | 'j' => some (Decimal.ofNat t.date.day)
  | 'l' => some (weekdayName t.weekday)
  | 'w' => some (Decimal.ofNat t.weekday)
  | 'W' => some (padded 2 (Date.weekOf t.dayNumber).2)
  | 'F' => some (monthName t.date.month)
  | 'm' => some (padded 2 t.date.month)
  | 'M' => some ((monthName t.date.month).take 3)
  | 'n' => some (Decimal.ofNat t.date.month)
  | 't' => some (Decimal.ofNat (daysInMonth t))
  | 'o' => some (Decimal.ofInt (Date.weekOf t.dayNumber).1)
  | 'Y' => some (padded 4 t.date.year)
  | 'y' => some (padded 2 (t.date.year.tmod 100))
  | 'a' => some (if t.hour < 12 then "am" else "pm")
  | 'A' => some (if t.hour < 12 then "AM" else "PM")
  | 'g' => some (Decimal.ofNat (hourOfTwelve t))
  | 'G' => some (Decimal.ofNat t.hour)
  | 'h' => some (padded 2 (hourOfTwelve t))
  | 'H' => some (padded 2 t.hour)
  | 'i' => some (padded 2 t.minute)
  | 's' => some (padded 2 t.second)
  | 'U' => some (Decimal.ofInt t.unix)
  | _ => none

/-- The text of a token for a moment. -/
def token (t : Moment) (token : Token) : Text :=
  if token.literal then token.text else (char? t token.char).getD token.text

/-- The text of a format for a moment. -/
def render (t : Moment) (format : Text) : Except PatternError Text := do
  Pattern.validate format
  return (Token.tokenize format).flatMap (token t)

end DatePattern.Reference
