import DatePattern.Pattern.Basic
import DatePattern.Recipe

/-!
# Capabilities

What an engine does with a format character: write a specifier of its own date function,
or follow a recipe. A table lists the capabilities of an engine by character.
-/

namespace DatePattern

/-- What an engine does with a format character. -/
inductive Capability where
  /-- A specifier of the engine's date function. -/
  | native (specifier : Text)
  /-- A recipe of generic SQL. -/
  | emulated (recipe : Recipe)
  deriving DecidableEq

namespace Capability

/-- Whether a character follows a recipe. -/
def isEmulated : Capability → Bool
  | .native _ => false
  | .emulated _ => true

/-- A recipe that is a template. -/
def template (source : Text) (closed : Template.unclosed? source = none := by decide) :
    Capability :=
  .emulated (.template ⟨source, closed⟩)

/-- A recipe that is a synthesis. -/
def synthesis (s : Synthesis) : Capability := .emulated (.synthesis s)

end Capability

end DatePattern

namespace DatePattern.Capability

/-!
## MySQL

The specifiers of `date_format`, which knows names, unpadded numbers and ISO weeks; its
`%p` is in upper case only.
-/

/-- The capabilities of MySQL. -/
def mysql : List (Char × Capability) :=
  [('d', .native "%d"),
    ('D', .native "%a"),
    ('j', .native "%e"),
    ('l', .native "%W"),
    ('w', .native "%w"),
    ('W', .native "%v"),
    ('F', .native "%M"),
    ('m', .native "%m"),
    ('M', .native "%b"),
    ('n', .native "%c"),
    ('t', template "day(last_day(\x7bexpr\x7d))"),
    ('o', .native "%x"),
    ('Y', .native "%Y"),
    ('y', .native "%y"),
    ('a', synthesis (.hourMeridiem "am" "pm")),
    ('A', .native "%p"),
    ('g', .native "%l"),
    ('G', .native "%k"),
    ('h', .native "%h"),
    ('H', .native "%H"),
    ('i', .native "%i"),
    ('s', .native "%s"),
    ('U', template "unix_timestamp(\x7bexpr\x7d)")]

/-!
## PostgreSQL

The keywords of `to_char`, where `FM` suppresses padding. Recipes end in a cast to text, so
that the concatenation operator accepts any neighbour.
-/

/-- The capabilities of PostgreSQL. -/
def postgres : List (Char × Capability) :=
  [('d', .native "DD"),
    ('D', .native "Dy"),
    ('j', .native "FMDD"),
    ('l', .native "FMDay"),
    ('w', template "extract(dow from \x7bexpr\x7d)::integer::text"),
    ('W', .native "IW"),
    ('F', .native "FMMonth"),
    ('m', .native "MM"),
    ('M', .native "Mon"),
    ('n', .native "FMMM"),
    ('t', template ("extract(day from date_trunc('month', \x7bexpr\x7d)" ++
      " + interval '1 month - 1 day')::integer::text")),
    ('o', .native "IYYY"),
    ('Y', .native "YYYY"),
    ('y', .native "YY"),
    ('a', .native "am"),
    ('A', .native "AM"),
    ('g', .native "FMHH12"),
    ('G', .native "FMHH24"),
    ('h', .native "HH12"),
    ('H', .native "HH24"),
    ('i', .native "MI"),
    ('s', .native "SS"),
    ('U', template "floor(extract(epoch from \x7bexpr\x7d))::bigint::text")]

/-!
## SQLite

The specifiers of `strftime`, which has no names, no unpadded numbers and no hours of the
half day. Week and week year are those of the Thursday of the week.
-/

/-- Short weekday names beside the values of `%w`. -/
def weekdaysShort : List (Text × Text) :=
  [("0", "Sun"), ("1", "Mon"), ("2", "Tue"), ("3", "Wed"), ("4", "Thu"), ("5", "Fri"),
    ("6", "Sat")]

/-- Weekday names beside the values of `%w`. -/
def weekdaysLong : List (Text × Text) :=
  [("0", "Sunday"), ("1", "Monday"), ("2", "Tuesday"), ("3", "Wednesday"), ("4", "Thursday"),
    ("5", "Friday"), ("6", "Saturday")]

/-- Short month names beside the values of `%m`. -/
def monthsShort : List (Text × Text) :=
  [("01", "Jan"), ("02", "Feb"), ("03", "Mar"), ("04", "Apr"), ("05", "May"), ("06", "Jun"),
    ("07", "Jul"), ("08", "Aug"), ("09", "Sep"), ("10", "Oct"), ("11", "Nov"), ("12", "Dec")]

/-- Month names beside the values of `%m`. -/
def monthsLong : List (Text × Text) :=
  [("01", "January"), ("02", "February"), ("03", "March"), ("04", "April"), ("05", "May"),
    ("06", "June"), ("07", "July"), ("08", "August"), ("09", "September"), ("10", "October"),
    ("11", "November"), ("12", "December")]

/-- The capabilities of SQLite. -/
def sqlite : List (Char × Capability) :=
  [('d', .native "%d"),
    ('D', synthesis (.named "%w" weekdaysShort)),
    ('j', synthesis (.unpadded "%d")),
    ('l', synthesis (.named "%w" weekdaysLong)),
    ('w', .native "%w"),
    ('W', template
      "printf('%02d', (strftime('%j', \x7bexpr\x7d, 'weekday 0', '-3 days') - 1) / 7 + 1)"),
    ('F', synthesis (.named "%m" monthsLong)),
    ('m', .native "%m"),
    ('M', synthesis (.named "%m" monthsShort)),
    ('n', synthesis (.unpadded "%m")),
    ('t', template "strftime('%d', \x7bexpr\x7d, 'start of month', '+1 month', '-1 day')"),
    ('o', template "strftime('%Y', \x7bexpr\x7d, 'weekday 0', '-3 days')"),
    ('Y', .native "%Y"),
    ('y', template "substr(strftime('%Y', \x7bexpr\x7d), 3, 2)"),
    ('a', synthesis (.clockMeridiem "am" "pm")),
    ('A', synthesis (.clockMeridiem "AM" "PM")),
    ('g', synthesis .hourOfTwelve),
    ('G', template "cast(strftime('%H', \x7bexpr\x7d) as integer)"),
    ('h', synthesis .paddedHourOfTwelve),
    ('H', .native "%H"),
    ('i', .native "%M"),
    ('s', .native "%S"),
    ('U', template "strftime('%s', \x7bexpr\x7d)")]

/-!
## SQL Server

The specifiers of `format`. Names are asked for in a fixed culture and weekday numbers are
taken relative to `@@datefirst`, so the language of the session does not show.
-/

/-- The capabilities of SQL Server. -/
def sqlserver : List (Char × Capability) :=
  [('d', .native "dd"),
    ('D', template "format(\x7bexpr\x7d, 'ddd', 'en-US')"),
    ('j', template "cast(day(\x7bexpr\x7d) as varchar(2))"),
    ('l', template "format(\x7bexpr\x7d, 'dddd', 'en-US')"),
    ('w', template
      "cast((datepart(weekday, \x7bexpr\x7d) + @@datefirst - 1) % 7 as varchar(1))"),
    ('W', template "right('0' + cast(datepart(iso_week, \x7bexpr\x7d) as varchar(2)), 2)"),
    ('F', template "format(\x7bexpr\x7d, 'MMMM', 'en-US')"),
    ('m', .native "MM"),
    ('M', template "format(\x7bexpr\x7d, 'MMM', 'en-US')"),
    ('n', template "cast(month(\x7bexpr\x7d) as varchar(2))"),
    ('t', template "cast(day(eomonth(\x7bexpr\x7d)) as varchar(2))"),
    ('o', template ("cast(year(dateadd(day, 3 - (datepart(weekday, \x7bexpr\x7d)" ++
      " + @@datefirst - 2) % 7, \x7bexpr\x7d)) as varchar(4))")),
    ('Y', .native "yyyy"),
    ('y', .native "yy"),
    ('a', synthesis (.partMeridiem "am" "pm")),
    ('A', synthesis (.partMeridiem "AM" "PM")),
    ('g', template "cast((datepart(hour, \x7bexpr\x7d) + 11) % 12 + 1 as varchar(2))"),
    ('G', template "cast(datepart(hour, \x7bexpr\x7d) as varchar(2))"),
    ('h', .native "hh"),
    ('H', .native "HH"),
    ('i', .native "mm"),
    ('s', .native "ss"),
    ('U', template "datediff_big(second, '1970-01-01', \x7bexpr\x7d)")]

end DatePattern.Capability

namespace DatePattern

/-! ## The tables -/

/-- The capabilities of an engine by character. -/
def Engine.table : Engine → List (Char × Capability)
  | .mysql => Capability.mysql
  | .sqlite => Capability.sqlite
  | .postgres => Capability.postgres
  | .sqlserver => Capability.sqlserver

/-- What an engine does with a character; nothing for a copied or rejected one. -/
def Engine.capability? (engine : Engine) (c : Char) : Option Capability := engine.table.lookup c

/-- What a dialect does with a character. -/
def Kind.capability? (kind : Kind) (c : Char) : Option Capability :=
  kind.engine?.bind fun engine => engine.capability? c

/-- The capability of every supported character, in order. -/
def Kind.capabilities (kind : Kind) : List (Char × Capability) :=
  Charset.supported.filterMap fun c => (kind.capability? c).map fun found => (c, found)

end DatePattern
