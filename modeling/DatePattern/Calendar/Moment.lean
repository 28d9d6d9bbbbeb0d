import DatePattern.Calendar.Date
import DatePattern.Number.Decimal

/-!
# Moments

A moment is an instant together with the zone of the clock that shows it. Its date, hour, minute
and second are those of that clock. The clock of a zone is set forward or back at times, so it may
skip what it would show or show it twice.
-/

namespace DatePattern

/-- How far the clock of a zone is ahead of UTC. -/
structure Zone where
  /-- Seconds ahead before the first change. -/
  initial : Int
  /-- The instants at which the clock is set, each with the seconds ahead from then on. -/
  changes : List (Int × Int) := []
  /-- The changes are in order. -/
  ordered : changes.Pairwise (·.1 < ·.1) := by decide
  deriving DecidableEq, Repr

namespace Zone

/-- The zone whose clock is never set. -/
def fixed (offset : Int) : Zone := { initial := offset, ordered := .nil }

/-- The zone of UTC. -/
def utc : Zone := fixed 0

/-- The seconds that the clock is ahead at an instant: since the last change, if there was one. -/
def offsetAt (zone : Zone) (unix : Int) : Int :=
  zone.changes.foldl (fun offset change => if change.1 ≤ unix then change.2 else offset)
    zone.initial

/-- The instant taken for what a clock shows, in seconds. The offset is first looked up as if the
clock showed UTC, then at the instant that this gives. -/
def instantOf (zone : Zone) (clock : Int) : Int :=
  clock - zone.offsetAt (clock - zone.offsetAt clock)

end Zone

/-- An instant shown by the clock of a zone. -/
structure Moment where
  /-- Seconds since 1970-01-01T00:00:00 UTC. -/
  unix : Int
  /-- Nanoseconds within the second. -/
  nanos : Nat
  /-- The zone of the clock. -/
  zone : Zone
  deriving DecidableEq, Repr

namespace Moment

/-- Seconds that the clock is ahead of UTC. -/
def offset (t : Moment) : Int := t.zone.offsetAt t.unix

/-- Seconds shown by the clock since midnight of day 0. -/
def clock (t : Moment) : Int := t.unix + t.offset

/-- The day number shown by the clock. -/
def dayNumber (t : Moment) : Int := t.clock / 86400

/-- The second of the day shown by the clock. -/
def secondOfDay (t : Moment) : Nat := (t.clock % 86400).toNat

/-- The date shown by the clock. -/
def date (t : Moment) : Date := Date.ofDayNumber t.dayNumber

/-- The hour, 0 to 23. -/
def hour (t : Moment) : Nat := t.secondOfDay / 3600

/-- The minute, 0 to 59. -/
def minute (t : Moment) : Nat := t.secondOfDay / 60 % 60

/-- The second, 0 to 59. -/
def second (t : Moment) : Nat := t.secondOfDay % 60

/-- The weekday, 0 for Sunday. -/
def weekday (t : Moment) : Nat := Date.weekdayOf t.dayNumber

/-- The moment of a wall clock in a zone. Each field may be out of its range; the excess carries
over into the next larger one. -/
def ofClockIn (zone : Zone) (year month day hour minute second nanos : Int) : Moment :=
  let y := year + (month - 1) / 12
  let m := ((month - 1) % 12).toNat + 1
  let days := Date.firstOfMonth y m + day - 1
  let seconds := days * 86400 + hour * 3600 + minute * 60 + second + nanos / 1000000000
  { unix := zone.instantOf seconds, nanos := (nanos % 1000000000).toNat, zone }

/-- The moment of a wall clock at a fixed offset. -/
def ofClock (year month day hour minute second nanos offset : Int) : Moment :=
  ofClockIn (.fixed offset) year month day hour minute second nanos

/-- The moment of an instant at a fixed offset. -/
def ofUnix (seconds nanos offset : Int) : Moment :=
  { unix := seconds + nanos / 1000000000, nanos := (nanos % 1000000000).toNat,
    zone := .fixed offset }

/-- 1 January of year 1, midnight UTC. -/
def zero : Moment := ofClock 1 1 1 0 0 0 0 0

/-- Two digits of a number. -/
def two (n : Nat) : Text := Decimal.padLeft 2 (Decimal.ofNat n)

/-- A year of at least four digits, the minus sign of a negative one not counted. -/
def yearText (year : Int) : Text :=
  (if year < 0 then "-" else "" : Text) ++ Decimal.padLeft 4 (Decimal.ofNat year.natAbs)

/-- `YYYY-MM-DD` as the clock shows it. -/
def dateText (t : Moment) : Text :=
  yearText t.date.year ++ "-" ++ two t.date.month ++ "-" ++ two t.date.day

/-- `HH:MM:SS` as the clock shows it. -/
def timeText (t : Moment) : Text := two t.hour ++ ":" ++ two t.minute ++ ":" ++ two t.second

/-- Date and time of the clock with `separator` between them. -/
def clockText (separator : Text) (t : Moment) : Text := t.dateText ++ separator ++ t.timeText

end Moment

end DatePattern
