import DatePattern.Calendar.Moment
import DatePattern.Proofs.Calendar.Date
import DatePattern.Proofs.Sqlite.Syntax

/-!
# What SQLite computes

The values of terms, as far as SQLite's documentation fixes them for date formats. The
functions here are partial: `none` stands for everything that is not assumed of the engine, so
a term with a value has it by these rules alone.

- `Instant.expand?`: the format of `strftime`, byte by byte; a percent sign introduces a
  specifier and every other byte is copied;
- `Instant.modify?`, `Instant.moved?`: the modifiers of `strftime`. The calendar ends with the year
  9999. Modifiers that count days may lead beyond it and back; one that needs the date to start from
  or sets the month there leads nowhere, and `strftime` is null. Before the year 0 nothing is assumed;
- `Binop.apply`, `applyFunction`: operators and functions on values. Text compares bytewise, is
  read as an integer in arithmetic, and integers are written in decimal where text is wanted.
  Concatenated with null everything is null;
- `Term.eval`, `evaluate`: the value of a term and of a text.
-/

namespace DatePattern.Sqlite

/-! ## Values -/

/-- A value. -/
inductive Value where
  | null
  | integer (n : Int)
  | text (t : Text)
  deriving DecidableEq, Repr

namespace Value

/-- A value as text: an integer in decimal. -/
def text? : Value → Option Text
  | .null => none
  | .integer n => some (Decimal.ofInt n)
  | .text t => some t

/-- A value as a number: text is read as an integer. -/
def integer? : Value → Option Int
  | .null => none
  | .integer n => some n
  | .text t => Decimal.toInt? t

/-- The value of a condition. -/
def ofBool (b : Bool) : Value := .integer (if b then 1 else 0)

/-- Whether a condition holds. -/
def holds? : Value → Option Bool
  | .integer n => some (n != 0)
  | _ => none

/-- Whether the first value is at most the second: integers as numbers, text bytewise. -/
def le? : Value → Value → Option Bool
  | .integer m, .integer n => some (m ≤ n)
  | .text s, .text t => some (s.le t)
  | _, _ => none

end Value

/-! ## Dates and times -/

/-- A day and a second of it. -/
structure Instant where
  /-- The day number. -/
  day : Int
  /-- The second of the day. -/
  second : Nat
  deriving DecidableEq, Repr

namespace Instant

/-- The date of an instant. -/
def date (i : Instant) : Date := .ofDayNumber i.day

/-- The instant of a date and a time of day that exist. -/
def ofFields? (year month day hour minute second : Nat) : Option Instant :=
  if 1 ≤ month ∧ month ≤ 12 ∧ 1 ≤ day ∧ day ≤ Date.monthLength year month ∧ hour < 24 ∧
      minute < 60 ∧ second < 60 then
    some ⟨Date.dayNumber ⟨year, month, day⟩, hour * 3600 + minute * 60 + second⟩
  else none

/-- The instant whose fields are written in decimal. -/
def ofDigits? (year month day hour minute second : Text) : Option Instant := do
  ofFields? (← Decimal.toNat? year) (← Decimal.toNat? month) (← Decimal.toNat? day)
    (← Decimal.toNat? hour) (← Decimal.toNat? minute) (← Decimal.toNat? second)

/-- The instant of a text `YYYY-MM-DD HH:MM:SS`. -/
def parse? : Text → Option Instant
  | [y₁, y₂, y₃, y₄, a, m₁, m₂, b, d₁, d₂, c, h₁, h₂, d, i₁, i₂, e, s₁, s₂] =>
    if [a, b, c, d, e] = ("-- ::" : Text) then
      ofDigits? [y₁, y₂, y₃, y₄] [m₁, m₂] [d₁, d₂] [h₁, h₂] [i₁, i₂] [s₁, s₂]
    else none
  | _ => none

/-- Whether the calendar has the date of an instant: it ends with the year 9999. -/
def hasDate? (i : Instant) : Option Bool :=
  if 0 ≤ i.date.year then some (i.date.year ≤ 9999) else none

/-- A modifier of `strftime`; none inside where it leads nowhere. -/
def modify? (i : Instant) (modifier : Text) : Option (Option Instant) :=
  if modifier = "start of month" then do
    return if ← i.hasDate? then some ⟨Date.firstOfMonth i.date.year i.date.month, 0⟩ else none
  else if modifier = "+1 month" then do
    let next := Date.nextMonth i.date.year i.date.month
    let later : Instant := ⟨Date.dayNumber ⟨next.1, next.2, i.date.day⟩, i.second⟩
    return if (← i.hasDate?) && (← later.hasDate?) then some later else none
  else if modifier = "-1 day" then some (some ⟨i.day - 1, i.second⟩)
  else if modifier = "-3 days" then some (some ⟨i.day - 3, i.second⟩)
  else if modifier = "weekday 0" then do
    let sunday : Instant := ⟨i.day + (7 - (Date.weekdayOf i.day : Int)) % 7, i.second⟩
    return if ← i.hasDate? then some sunday else none
  else none

/-- Modifiers one after the other. The instant that they lead to must have a date. -/
def moved? (i : Instant) : List Text → Option (Option Instant)
  | [] => do return if ← i.hasDate? then some i else none
  | modifier :: rest => do
    match ← i.modify? modifier with
    | some j => j.moved? rest
    | none => return none

/-- The day of the year, from 1. -/
def yearDay (i : Instant) : Nat := (i.day - Date.firstOfMonth i.date.year 1 + 1).toNat

/-- A specifier of `strftime`, by the byte behind the percent sign. -/
def specifier? (i : Instant) (b : UInt8) : Option Text :=
  if b = Text.byte 'd' then some (Decimal.padLeft 2 (Decimal.ofNat i.date.day))
  else if b = Text.byte 'm' then some (Decimal.padLeft 2 (Decimal.ofNat i.date.month))
  else if b = Text.byte 'Y' then some (Decimal.padLeft 4 (Decimal.ofNat i.date.year.toNat))
  else if b = Text.byte 'H' then some (Decimal.padLeft 2 (Decimal.ofNat (i.second / 3600)))
  else if b = Text.byte 'M' then some (Decimal.padLeft 2 (Decimal.ofNat (i.second / 60 % 60)))
  else if b = Text.byte 'S' then some (Decimal.padLeft 2 (Decimal.ofNat (i.second % 60)))
  else if b = Text.byte 'w' then some (Decimal.ofNat (Date.weekdayOf i.day))
  else if b = Text.byte 'j' then some (Decimal.padLeft 3 (Decimal.ofNat i.yearDay))
  else if b = Text.byte 's' then some (Decimal.ofInt (i.day * 86400 + i.second))
  else if b = Text.byte '%' then some "%"
  else none

/-- The text of a format of `strftime`. -/
def expand? (i : Instant) : Text → Option Text
  | [] => some []
  | [b] => if b = 0x25 then none else some [b]
  | b :: c :: rest =>
    if b = 0x25 then do return (← i.specifier? c) ++ (← i.expand? rest)
    else do return b :: (← i.expand? (c :: rest))

end Instant

/-! ## Operators and functions -/

/-- The value of an operator. -/
def Binop.apply (op : Binop) (l r : Value) : Option Value :=
  match op with
  | .concat =>
    match l.text?, r.text? with
    | some a, some b => some (.text (a ++ b))
    | _, _ => some .null
  | .mul => do return .integer ((← l.integer?) * (← r.integer?))
  | .add => do return .integer ((← l.integer?) + (← r.integer?))
  | .sub => do return .integer ((← l.integer?) - (← r.integer?))
  | .div => do
    let n ← r.integer?
    if n = 0 then none else return .integer ((← l.integer?).tdiv n)
  | .mod => do
    let n ← r.integer?
    if n = 0 then none else return .integer ((← l.integer?).tmod n)
  | .le => do return .ofBool (← l.le? r)
  | .ge => do return .ofBool (← r.le? l)
  | .gt => do return .ofBool !(← l.le? r)
  | .lt => do return .ofBool !(← r.le? l)
  | .eq => do return .ofBool ((← l.le? r) && (← r.le? l))
  | .ne => do return .ofBool !((← l.le? r) && (← r.le? l))
  | .and => do return .ofBool ((← l.holds?) && (← r.holds?))

/-- Whether every character of a text is one byte. -/
def isAscii (text : Text) : Bool := text.all (· < 0x80)

/-- The texts of values that are texts. -/
def texts? : List Value → Option (List Text)
  | [] => some []
  | .text text :: rest => do return text :: (← texts? rest)
  | _ => none

/-- `strftime`: a format, a time and modifiers. -/
def strftime (format time : Text) (modifiers : List Text) : Option Value := do
  match ← (← Instant.parse? time).moved? modifiers with
  | some i => return .text (← i.expand? format)
  | none => return .null

/-- The value of a function. -/
def applyFunction (name : Text) (args : List Value) : Option Value :=
  match args with
  | .text format :: .text time :: modifiers =>
    if name = "strftime" then do strftime format time (← texts? modifiers)
    else if name = "ltrim" ∧ modifiers = [] ∧ isAscii time then
      some (.text (format.dropWhile time.contains))
    else none
  | [.text text, .integer n] =>
    if name = "printf" ∧ text = "%02d" then some (.text (Decimal.padLeft 2 (Decimal.ofInt n)))
    else none
  | [.text text, .integer start, .integer length] =>
    if name = "substr" ∧ isAscii text ∧ 1 ≤ start ∧ 0 ≤ length then
      some (.text ((text.drop (start.toNat - 1)).take length.toNat))
    else none
  | _ => none

/-! ## Terms -/

mutual

/-- The value of a term. -/
def Term.eval : Term → Option Value
  | .string text => some (.text text)
  | .number n => some (.integer n)
  | .call name args => do applyFunction name (← evalAll args)
  | .cast operand => do return .integer (← (← operand.eval).integer?)
  | .binary op left right => do op.apply (← left.eval) (← right.eval)
  | .case branches default => do
    match ← evalBranches branches with
    | some value => some value
    | none => evalDefault default

/-- The values of a list of terms. -/
def Term.evalAll : List Term → Option (List Value)
  | [] => some []
  | term :: rest => do return (← term.eval) :: (← evalAll rest)

/-- The result of the first branch whose condition holds, if there is one. -/
def Term.evalBranches : List (Term × Term) → Option (Option Value)
  | [] => some none
  | (condition, result) :: rest => do
    if ← (← condition.eval).holds? then return some (← result.eval) else evalBranches rest

/-- The value of the default of a case; null when there is none. -/
def Term.evalDefault : Option Term → Option Value
  | none => some .null
  | some term => term.eval

end

/-- The value of the expression that a text is. -/
def evaluate (text : Text) : Option Value := (read text).bind Term.eval

end DatePattern.Sqlite
