import DatePattern.Calendar.Moment
import DatePattern.Proofs.Calendar.Date

/-!
# What a clock shows

The fields that a clock shows at a moment lie in their ranges, and together they are the moment:

- `Moment.valid_date`, `Moment.hour_lt`, `Moment.minute_lt`, `Moment.second_lt`: the ranges;
- `Moment.date_eq_iff`: the clock shows one date on one day;
- `Zone.offsetAt_of_last`, `Zone.offsetAt_congr`: the clock of a zone is ahead by what the last change
  set it to, and equally far at two instants between which it is not set. `Zone.offsetAt_near` puts
  the two together around one change;
- `Zone.shown_fixed`: a clock that is never set shows again what an instant is taken for;
- `Moment.Before`: the order of the fields, largest first. `Moment.before_of_lt`: a clock that
  shows less is behind in that order.
-/

namespace DatePattern

/-- The order of dates by year, month and day. -/
def Date.Before (d e : Date) : Prop :=
  d.year < e.year ∨ d.year = e.year ∧ (d.month < e.month ∨ d.month = e.month ∧ d.day < e.day)

/-- Dates are ordered as their days are. -/
theorem Date.Valid.before_of_dayNumber_lt {d e : Date} (hd : d.Valid) (he : e.Valid)
    (lt : d.dayNumber < e.dayNumber) : d.Before e := by
  -- the month of `d` begins before that of `e` ends
  have months := strictMono_monthStart.lt_iff_lt.mp
    (lt_of_le_of_lt hd.dayNumber_bounds.1 (lt_trans lt he.dayNumber_bounds.2))
  obtain ⟨dm, dm', -⟩ := hd
  obtain ⟨em, em', -⟩ := he
  rw [Before]
  by_cases year : d.year = e.year
  · by_cases month : d.month = e.month
    · rw [dayNumber, dayNumber, year, month] at lt
      omega
    · omega
  · omega

/-! ## Zones -/

namespace Zone

@[simp] theorem offsetAt_fixed (offset unix : Int) : (fixed offset).offsetAt unix = offset := rfl

/-- What the clock shows at the instant that is taken for what it shows. -/
def shown (zone : Zone) (clock : Int) : Int :=
  zone.instantOf clock + zone.offsetAt (zone.instantOf clock)

@[simp] theorem shown_fixed (offset clock : Int) : (fixed offset).shown clock = clock := by
  show clock - offset + offset = clock
  omega

/-- Between two instants at which the same changes have been reached the clock is not set. -/
theorem offsetAt_congr {zone : Zone} {u v : Int}
    (same : ∀ change ∈ zone.changes, change.1 ≤ u ↔ change.1 ≤ v) :
    zone.offsetAt u = zone.offsetAt v := by
  unfold offsetAt
  refine List.foldl_ext _ _ _ fun offset change mem => ?_
  simp only [same change mem]

/-- The last change that has been reached says how far the clock is ahead. -/
theorem offsetAt_of_last {zone : Zone} {instant offset unix : Int}
    (mem : (instant, offset) ∈ zone.changes) (reached : instant ≤ unix)
    (last : ∀ change ∈ zone.changes, change.1 ≤ unix → change.1 ≤ instant) :
    zone.offsetAt unix = offset := by
  obtain ⟨early, late, split⟩ := List.append_of_mem mem
  have later : ∀ change ∈ late, ¬ change.1 ≤ unix := by
    intro change inLate le
    have order := zone.ordered
    rw [split, List.pairwise_append, List.pairwise_cons] at order
    have behind : instant < change.1 := order.2.1.1 change inLate
    have before := last change (split ▸ List.mem_append_right early (.tail _ inLate)) le
    omega
  have kept : ∀ rest : List (Int × Int), (∀ change ∈ rest, ¬ change.1 ≤ unix) →
      rest.foldl (fun o change => if change.1 ≤ unix then change.2 else o) offset = offset := by
    intro rest beyond
    induction rest with
    | nil => rfl
    | cons change rest ih =>
      rw [List.foldl_cons, if_neg (beyond change List.mem_cons_self)]
      exact ih fun other inRest => beyond other (.tail _ inRest)
  rw [offsetAt, split, List.foldl_append, List.foldl_cons, if_pos reached]
  exact kept late later

/-- Around a change that has no other nearby, the clock goes by what it is set to from then on and by
what went before until then. -/
theorem offsetAt_near {zone : Zone} {change after reach unix : Int}
    (mem : (change, after) ∈ zone.changes)
    (alone : ∀ other ∈ zone.changes,
      other.1 = change ∨ other.1 < change - reach ∨ change + reach < other.1)
    (low : change - reach ≤ unix) (high : unix ≤ change + reach) :
    zone.offsetAt unix = if change ≤ unix then after else zone.offsetAt (change - 1) := by
  split_ifs with reached
  · refine offsetAt_of_last mem reached fun other inChanges le => ?_
    have := alone other inChanges
    omega
  · refine offsetAt_congr fun other inChanges => ?_
    have := alone other inChanges
    omega

end Zone

namespace Moment

/-! ## Ranges -/

theorem secondOfDay_lt (t : Moment) : t.secondOfDay < 86400 := by
  rw [secondOfDay]
  omega

theorem hour_lt (t : Moment) : t.hour < 24 := by
  have := t.secondOfDay_lt
  rw [hour]
  omega

theorem minute_lt (t : Moment) : t.minute < 60 := by
  rw [minute]
  omega

theorem second_lt (t : Moment) : t.second < 60 := by
  rw [second]
  omega

theorem valid_date (t : Moment) : t.date.Valid := Date.valid_ofDayNumber t.dayNumber

theorem day_lt (t : Moment) : t.date.day < 100 := by
  have := t.valid_date.2.2.2
  have := (Date.monthLength_bounds t.date.year t.date.month).2
  omega

theorem month_lt (t : Moment) : t.date.month < 100 := by
  have := t.valid_date.2.1
  omega

/-! ## Days and seconds -/

theorem dayNumber_date (t : Moment) : t.date.dayNumber = t.dayNumber :=
  Date.dayNumber_ofDayNumber t.dayNumber

/-- A clock shows one date on one day. -/
theorem date_eq_iff (t u : Moment) : t.date = u.date ↔ t.dayNumber = u.dayNumber := by
  constructor
  · intro same
    rw [← t.dayNumber_date, same, u.dayNumber_date]
  · intro same
    rw [date, same, date]

theorem clock_eq (t : Moment) : t.clock = 86400 * t.dayNumber + t.secondOfDay := by
  rw [dayNumber, secondOfDay]
  omega

theorem secondOfDay_eq (t : Moment) : t.secondOfDay = 3600 * t.hour + 60 * t.minute + t.second := by
  rw [hour, minute, second]
  omega

/-! ## Order -/

/-- The order of moments by what the clock shows: the date, then hour, minute and second. -/
def Before (t u : Moment) : Prop :=
  t.date.Before u.date ∨ t.date = u.date ∧
    (t.hour < u.hour ∨ t.hour = u.hour ∧
      (t.minute < u.minute ∨ t.minute = u.minute ∧ t.second < u.second))

/-- A clock that shows less is behind in its largest field that differs. -/
theorem before_of_lt {t u : Moment} (lt : t.clock < u.clock) : t.Before u := by
  have ht := t.secondOfDay_lt
  have hu := u.secondOfDay_lt
  rw [t.clock_eq, u.clock_eq] at lt
  rw [Before, date_eq_iff]
  by_cases day : t.dayNumber < u.dayNumber
  · rw [← t.dayNumber_date, ← u.dayNumber_date] at day
    exact .inl (t.valid_date.before_of_dayNumber_lt u.valid_date day)
  · -- the days are the same, so the seconds of the day decide
    have seconds : t.secondOfDay < u.secondOfDay := by omega
    rw [t.secondOfDay_eq, u.secondOfDay_eq] at seconds
    have := t.minute_lt
    have := u.minute_lt
    have := t.second_lt
    have := u.second_lt
    exact .inr ⟨by omega, by omega⟩

end Moment

end DatePattern
