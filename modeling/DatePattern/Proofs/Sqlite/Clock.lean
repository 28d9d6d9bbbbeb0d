import DatePattern.Proofs.Calendar.Moment
import DatePattern.Proofs.Number.Decimal
import DatePattern.Proofs.Sqlite.Evaluate
import DatePattern.Proofs.Sqlite.Reading

/-!
# A timestamp literal and its specifiers

A moment is written as a timestamp literal, and SQLite reads the literal as a day and a second
of the day. From there on every specifier of `strftime` is a number that the moment has too:

- `Instant.parse?_clockText`: the literal of a moment in the years 1000 to 9999 is read as the
  day and second that its clock shows;
- `eval_strftime`: the value of `strftime` on the literal;
- `Instant.moved?_thursday`, `Instant.moved?_lastOfMonth`: where the modifiers lead. The first of the
  month behind the last December has no date, and neither has the day before it when it is looked for
  from there.
-/

namespace DatePattern.Sqlite

/-- The day and the second of the day that the clock of a moment shows. -/
def Instant.ofMoment (t : Moment) : Instant := ⟨t.dayNumber, t.secondOfDay⟩

/-! ## Reading the literal -/

/-- Fields of the right number of digits are read where they stand. -/
theorem Instant.parse?_digits {year month day hour minute second : Nat}
    (low : 1000 ≤ year) (high : year < 10000) (hm : month < 100) (hd : day < 100)
    (hh : hour < 100) (hi : minute < 100) (hs : second < 100) :
    parse? (Decimal.padLeft 4 (Decimal.ofNat year) ++ "-" ++ Moment.two month ++ "-"
        ++ Moment.two day ++ " "
        ++ (Moment.two hour ++ ":" ++ Moment.two minute ++ ":" ++ Moment.two second))
      = ofFields? year month day hour minute second := by
  have digits : ofDigits? (Decimal.padLeft 4 (Decimal.ofNat year)) (Moment.two month)
      (Moment.two day) (Moment.two hour) (Moment.two minute) (Moment.two second)
        = ofFields? year month day hour minute second := by
    simp only [ofDigits?, Moment.two, Decimal.toNat?_padLeft_ofNat]
    rfl
  rw [← digits]
  -- every field has its full width, so the bytes stand where the pattern has them
  simp only [Moment.two, Decimal.ofNat_four low high, Decimal.padLeft_two hm,
    Decimal.padLeft_two hd, Decimal.padLeft_two hh, Decimal.padLeft_two hi,
    Decimal.padLeft_two hs]
  rfl

/-- **The literal of a moment is read as what its clock shows.** -/
theorem Instant.parse?_clockText {t : Moment} (low : 1000 ≤ t.date.year)
    (high : t.date.year ≤ 9999) : parse? (t.clockText " ") = some (ofMoment t) := by
  obtain ⟨year, hy⟩ : ∃ y : Nat, t.date.year = y := ⟨t.date.year.toNat, by omega⟩
  have seconds := t.secondOfDay_lt
  have hour := t.hour_lt
  have minute := t.minute_lt
  have second := t.second_lt
  have yearText : Moment.yearText t.date.year = Decimal.padLeft 4 (Decimal.ofNat year) := by
    rw [Moment.yearText, hy, if_neg (by omega)]
    rfl
  have valid := t.valid_date
  have date : (⟨(year : Int), t.date.month, t.date.day⟩ : Date) = t.date := by rw [← hy]
  rw [Moment.clockText, Moment.dateText, Moment.timeText, yearText,
    parse?_digits (by omega) (by omega) t.month_lt t.day_lt (by omega) (by omega) (by omega),
    ofFields?, if_pos, date]
  · congr 2
    · exact Date.dayNumber_ofDayNumber t.dayNumber
    · rw [Moment.hour, Moment.minute, Moment.second]
      omega
  · rw [← hy]
    exact ⟨valid.1, valid.2.1, valid.2.2.1, valid.2.2.2, hour, minute, second⟩

/-! ## The value of `strftime` -/

theorem Term.evalAll_strings (texts : List Text) :
    Term.evalAll (texts.map .string) = some (texts.map .text) := by
  induction texts with
  | nil => rfl
  | cons text rest ih =>
    rw [List.map_cons, Term.evalAll, ih]
    rfl

theorem texts?_texts (texts : List Text) : texts? (texts.map .text) = some texts := by
  induction texts with
  | nil => rfl
  | cons text rest ih =>
    rw [List.map_cons, texts?, ih]
    rfl

theorem eval_call_strftime (format time : Text) (modifiers : List Text) :
    (Term.call "strftime" (.string format :: .string time :: modifiers.map .string)).eval
      = strftime format time modifiers := by
  have args : Term.evalAll (.string format :: .string time :: modifiers.map .string)
      = some (.text format :: .text time :: modifiers.map .text) := by
    rw [Term.evalAll, Term.evalAll, Term.evalAll_strings]
    rfl
  rw [Term.eval, args]
  show (texts? (modifiers.map .text)).bind (strftime format time) = _
  rw [texts?_texts, Option.bind_some]

section

variable {time : Text} {start : Instant} (read : Instant.parse? time = some start)
  {modifiers : List Text} (format : Text)
include read

theorem eval_strftime {i : Instant} (moved : start.moved? modifiers = some (some i)) :
    (Term.call "strftime" (.string format :: .string time :: modifiers.map .string)).eval
      = (i.expand? format).map .text := by
  rw [eval_call_strftime, strftime, read]
  simp only [Option.bind_eq_bind, Option.bind_some, moved]
  cases i.expand? format <;> rfl

/-- Where its modifiers lead nowhere, `strftime` is null. -/
theorem eval_strftime_null (moved : start.moved? modifiers = some none) :
    (Term.call "strftime" (.string format :: .string time :: modifiers.map .string)).eval
      = some .null := by
  rw [eval_call_strftime, strftime, read]
  simp only [Option.bind_eq_bind, Option.bind_some, moved]
  rfl

end

theorem Instant.expand?_specifier (i : Instant) (b : UInt8) :
    i.expand? [0x25, b] = i.specifier? b := by
  show (i.specifier? b).bind (fun text => (some []).bind fun rest => some (text ++ rest)) = _
  cases i.specifier? b with
  | none => rfl
  | some text => exact congrArg some (List.append_nil text)

/-! ## Modifiers -/

theorem Instant.hasDate?_eq_true {i : Instant} (low : 0 ≤ i.date.year)
    (high : i.date.year ≤ 9999) : i.hasDate? = some true := by
  rw [hasDate?, if_pos low, decide_eq_true high]

theorem Instant.moved?_nil {i : Instant} (dated : i.hasDate? = some true) :
    i.moved? [] = some (some i) := by
  rw [moved?, dated]
  rfl

/-- Forward to Sunday and three days back is the Thursday of the week. The Sunday may have no date,
as long as the Thursday has one. -/
theorem Instant.moved?_thursday {i : Instant} (dated : i.hasDate? = some true)
    (thursday : (⟨Date.thursdayOf i.day, i.second⟩ : Instant).hasDate? = some true) :
    i.moved? ["weekday 0", "-3 days"] = some (some ⟨Date.thursdayOf i.day, i.second⟩) := by
  have sunday : i.modify? "weekday 0"
      = some (some ⟨i.day + (7 - (Date.weekdayOf i.day : Int)) % 7, i.second⟩) := by
    show (i.hasDate?.bind _ : Option (Option Instant)) = _
    rw [dated]
    rfl
  have back : (⟨i.day + (7 - (Date.weekdayOf i.day : Int)) % 7, i.second⟩ : Instant).modify?
      "-3 days" = some (some ⟨Date.thursdayOf i.day, i.second⟩) := by
    rw [Date.thursdayOf_eq]
    rfl
  rw [moved?, sunday]
  show moved? _ _ = _
  rw [moved?, back]
  exact moved?_nil thursday

section LastOfMonth

variable {i : Instant} (low : 0 ≤ i.date.year) (high : i.date.year ≤ 9999)
include low high

/-- The first of a month and a month on, by whether the calendar has the month behind it. -/
theorem Instant.modify?_next {next : Int × Nat}
    (behind : Date.nextMonth i.date.year i.date.month = next) :
    ∃ first, i.modify? "start of month" = some (some first) ∧
      first.modify? "+1 month" =
        some (if next.1 ≤ 9999 then some ⟨Date.firstOfMonth next.1 next.2, 0⟩ else none) := by
  obtain ⟨lowMonth, highMonth, -⟩ := Date.valid_ofDayNumber i.day
  have date : (⟨Date.firstOfMonth i.date.year i.date.month, 0⟩ : Instant).date
      = ⟨i.date.year, i.date.month, 1⟩ := Date.ofDayNumber_firstOfMonth _ lowMonth highMonth
  have dateNext : (⟨Date.firstOfMonth next.1 next.2, 0⟩ : Instant).date = ⟨next.1, next.2, 1⟩ := by
    rw [← behind]
    exact Date.ofDayNumber_firstOfNext _ lowMonth highMonth
  have yearNext : 0 ≤ next.1 := by
    rw [← behind, Date.nextMonth]
    split_ifs
    · exact Int.le_add_one low
    · exact low
  have later : Date.dayNumber ⟨next.1, next.2, 1⟩ = Date.firstOfMonth next.1 next.2 :=
    Int.add_sub_cancel _ 1
  refine ⟨⟨Date.firstOfMonth i.date.year i.date.month, 0⟩, ?_, ?_⟩
  · show (i.hasDate?.bind _ : Option (Option Instant)) = _
    rw [hasDate?_eq_true low high]
    rfl
  · rw [modify?, if_neg (by decide), if_pos rfl, date]
    dsimp only
    rw [behind, later, hasDate?_eq_true (by rw [date]; exact low) (by rw [date]; exact high),
      hasDate?, dateNext, if_pos yearNext]
    by_cases has : next.1 ≤ 9999 <;> simp [has]

/-- In the last month of the calendar there is no way to its end over the first of the next. -/
theorem Instant.moved?_beyond (last : i.date.year = 9999 ∧ i.date.month = 12) :
    i.moved? ["start of month", "+1 month", "-1 day"] = some none := by
  obtain ⟨first, start, month⟩ := modify?_next low high rfl
  have beyond : ¬(Date.nextMonth i.date.year i.date.month).1 ≤ 9999 := by
    rw [last.1, last.2]
    decide
  rw [if_neg beyond] at month
  simp only [moved?, start, month, Option.bind_eq_bind, Option.bind_some]
  rfl

/-- In any other month, the first of the month, a month on and a day back is the last of the
month. -/
theorem Instant.moved?_lastOfMonth (inside : ¬(i.date.year = 9999 ∧ i.date.month = 12)) :
    ∃ j, i.moved? ["start of month", "+1 month", "-1 day"] = some (some j) ∧
      j.date = ⟨i.date.year, i.date.month, Date.monthLength i.date.year i.date.month⟩ := by
  obtain ⟨lowMonth, highMonth, -⟩ := Date.valid_ofDayNumber i.day
  obtain ⟨first, start, month⟩ := modify?_next low high rfl
  have has : (Date.nextMonth i.date.year i.date.month).1 ≤ 9999 := by
    unfold Date.nextMonth
    split_ifs with december
    · dsimp only
      omega
    · exact high
  rw [if_pos has] at month
  have date := Date.ofDayNumber_beforeNext i.date.year lowMonth highMonth
  refine ⟨⟨Date.firstOfMonth (Date.nextMonth i.date.year i.date.month).1
    (Date.nextMonth i.date.year i.date.month).2 - 1, 0⟩, ?_, date⟩
  have dated := hasDate?_eq_true (i := ⟨_, 0⟩) (by rw [Instant.date, date]; exact low)
    (by rw [Instant.date, date]; exact high)
  simp only [moved?, start, month, Option.bind_eq_bind, Option.bind_some]
  exact moved?_nil dated

end LastOfMonth

end DatePattern.Sqlite
