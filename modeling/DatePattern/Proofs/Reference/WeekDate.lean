import DatePattern.Proofs.Calendar.Moment
import DatePattern.Proofs.Calendar.Week
import DatePattern.Proofs.Number.Signed
import DatePattern.Proofs.Pattern.Acceptance

/-!
# Week dates

The format `o-W-w` writes the year of the week, its number and the weekday. The year may have any
number of digits and a sign, but what stands behind it has five bytes, so the text can be taken
apart from its end:

- `weekDate`, `render_weekDate`: the text;
- `weekDate_eq_iff`: it tells the day.
-/

namespace DatePattern.Reference

/-- The year of the week, its number and the weekday. -/
def weekDate (t : Moment) : Text :=
  Decimal.ofInt (Date.weekOf t.dayNumber).1 ++ ("-" ++ (padded 2 (Date.weekOf t.dayNumber).2 ++
    ("-" ++ Decimal.ofNat t.weekday)))

section Formats

variable (t : Moment)

theorem render_weekDate : render t "o-W-w" = .ok (weekDate t) := by
  have chars : ("o-W-w" : Text) = Text.ofChars "o-W-w".toList := rfl
  rw [chars, render_plain t (by decide)]
  show Except.ok (List.flatMap _ ['o', '-', 'W', '-', 'w']) = _
  simp only [List.flatMap_cons, List.flatMap_nil, List.append_nil]
  rfl

theorem render_weekYear : render t "o" = .ok (Decimal.ofInt (Date.weekOf t.dayNumber).1) := by
  have chars : ("o" : Text) = Text.ofChars ['o'] := rfl
  rw [chars, render_plain t (by decide), List.flatMap_singleton]
  rfl

theorem render_week : render t "W" = .ok (padded 2 (Date.weekOf t.dayNumber).2) := by
  have chars : ("W" : Text) = Text.ofChars ['W'] := rfl
  rw [chars, render_plain t (by decide), List.flatMap_singleton]
  rfl

end Formats

/-- Behind the year stand five bytes: two digits of the week and one of the weekday. -/
theorem weekDate_eq (t : Moment) :
    weekDate t = Decimal.ofInt (Date.weekOf t.dayNumber).1 ++
      [0x2D, Decimal.digit ((Date.weekOf t.dayNumber).2 / 10),
        Decimal.digit ((Date.weekOf t.dayNumber).2 % 10), 0x2D, Decimal.digit t.weekday] := by
  have bounds := Date.week_bounds t.dayNumber
  have weekday := Date.weekdayOf_lt t.dayNumber
  have number : padded 2 (Date.weekOf t.dayNumber).2 = _ :=
    Decimal.padLeft_two (lt_of_le_of_lt bounds.2 (by decide))
  have day : Decimal.ofNat t.weekday = _ := Decimal.ofNat_of_lt (lt_trans weekday (by decide))
  rw [weekDate, number, day]
  rfl

/-- A week date tells the day. -/
theorem weekDate_eq_iff (t u : Moment) : weekDate t = weekDate u ↔ t.date = u.date := by
  rw [Moment.date_eq_iff, Date.eq_iff_weekOf]
  constructor
  · intro same
    rw [weekDate_eq, weekDate_eq] at same
    -- the last five bytes have their places, so the year is what stands before them
    obtain ⟨years, rest⟩ := List.append_inj' same rfl
    simp only [List.cons.injEq, true_and, and_true] at rest
    obtain ⟨tens, ones, weekdays⟩ := rest
    have ht := (Date.week_bounds t.dayNumber).2
    have hu := (Date.week_bounds u.dayNumber).2
    have high := Decimal.digit_injective (by omega) (by omega) tens
    have low := Decimal.digit_injective (by omega) (by omega) ones
    refine ⟨Prod.ext (Decimal.ofInt_injective years) (by omega), ?_⟩
    exact Decimal.digit_injective (lt_trans (Date.weekdayOf_lt _) (by decide))
      (lt_trans (Date.weekdayOf_lt _) (by decide)) weekdays
  · rintro ⟨weeks, weekdays⟩
    have same : t.weekday = u.weekday := weekdays
    rw [weekDate, weekDate, weeks, same]

/-- **Week dates identify the day.** Two moments have the same `o-W-w` exactly when their clocks
show the same date. The week is one of 01 to 53; the seven days from a Monday on, the last of them
a Sunday, have the same year and number of the week; and 4 January is in week 01 of its year. -/
theorem week_dates_identify_days :
    (∀ t u : Moment, ∃ a b, render t "o-W-w" = .ok a ∧ render u "o-W-w" = .ok b ∧
      (a = b ↔ t.date = u.date)) ∧
    (∀ t : Moment, ∃ n : Nat, 1 ≤ n ∧ n ≤ 53 ∧ render t "W" = .ok (padded 2 n)) ∧
    (∀ (t u : Moment) (k : Nat), t.weekday = 1 → k < 7 → u.dayNumber = t.dayNumber + k →
      u.weekday = (1 + k) % 7 ∧
      ∃ year number, render t "o" = .ok year ∧ render u "o" = .ok year ∧
        render t "W" = .ok number ∧ render u "W" = .ok number) ∧
    (∀ (t : Moment) (year : Int), t.date = ⟨year, 1, 4⟩ →
      render t "o" = .ok (Decimal.ofInt year) ∧ render t "W" = .ok "01") := by
  refine ⟨fun t u => ?_, fun t => ?_, fun t u k monday inWeek later => ?_, fun t year date => ?_⟩
  · exact ⟨_, _, render_weekDate t, render_weekDate u, weekDate_eq_iff t u⟩
  · obtain ⟨low, high⟩ := Date.week_bounds t.dayNumber
    exact ⟨_, low, high, render_week t⟩
  · obtain ⟨same, weekday⟩ := Date.weekOf_add monday inWeek
    refine ⟨by rw [Moment.weekday, later, weekday], _, _, render_weekYear t, ?_, render_week t, ?_⟩
    · rw [render_weekYear, later, same]
    · rw [render_week, later, same]
  · have first : Date.weekOf t.dayNumber = (year, 1) := by
      rw [← t.dayNumber_date, date, Date.weekOf_january_fourth]
    rw [render_weekYear, render_week, first]
    exact ⟨rfl, rfl⟩

/-- The last Monday of a December lies in the first week of the year to come, which is negative
here. -/
theorem week_dates_identify_days_turn_of_year :
    let monday := Moment.ofClock (-3) 12 29 23 30 0 0 3600
    let sunday := Moment.ofClock (-2) 1 4 0 0 0 0 0
    monday.weekday = 1 ∧ sunday.dayNumber = monday.dayNumber + (6 : Nat) ∧ sunday.weekday = 0 ∧
      sunday.date = ⟨-2, 1, 4⟩ ∧ monday.date ≠ sunday.date ∧
      render monday "o" = .ok "-2" ∧ render monday "W" = .ok "01" ∧
      ∃ a b, render monday "o-W-w" = .ok a ∧ render sunday "o-W-w" = .ok b ∧ a ≠ b := by
  intro monday sunday
  have first : monday.weekday = 1 := by decide
  have sixth : sunday.dayNumber = monday.dayNumber + (6 : Nat) := by decide
  have fourth : sunday.date = ⟨-2, 1, 4⟩ := by decide
  have differ : monday.date ≠ sunday.date := by decide
  obtain ⟨identify, -, seven, january⟩ := week_dates_identify_days
  obtain ⟨weekday, year, number, mondayYear, sundayYear, mondayWeek, sundayWeek⟩ :=
    seven monday sunday 6 first (by decide) sixth
  obtain ⟨yearText, weekText⟩ := january sunday (-2) fourth
  obtain ⟨a, b, textA, textB, same⟩ := identify monday sunday
  refine ⟨first, sixth, weekday, fourth, differ, ?_, ?_, a, b, textA, textB, mt same.mp differ⟩
  · rw [mondayYear, ← sundayYear, yearText]
    rfl
  · rw [mondayWeek, ← sundayWeek, weekText]

end DatePattern.Reference
