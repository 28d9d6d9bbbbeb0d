import DatePattern.Calendar.Date
import Mathlib.Order.Monotone.Basic
import Mathlib.Tactic

/-!
# The calendar counts every day once

Day numbers and dates are computed from each other by closed formulas. They are those of the
Gregorian calendar:

- `firstOfMonth_next`: a month begins where the month before it ends;
- `dayNumber_ofDayNumber`, `ofDayNumber_dayNumber`: dates that exist and day numbers are in
  bijection;
- `ofDayNumber_beforeNext`: the day before a month begins ends the month before it;
- `le_year_iff`: a year is reached at its first day, so years are ordered as days are;
- `thursdayOf_eq`: the Thursday of a week is three days before the next Sunday.

The first formula is opened up by `era_split`: the 146097 days of an era of 400 years are
centuries, within them cycles of four years, within them years. Years begin in March here, so
the day that a leap year adds is the last of its year.
-/

namespace DatePattern.Date

/-- A date that exists. -/
def Valid (date : Date) : Prop :=
  1 ≤ date.month ∧ date.month ≤ 12 ∧ 1 ≤ date.day ∧ date.day ≤ monthLength date.year date.month

/-! ## Months -/

/-- The year and month behind a month. -/
def nextMonth (year : Int) (month : Nat) : Int × Nat :=
  if month = 12 then (year + 1, 1) else (year, month + 1)

theorem isLeap_iff (year : Int) :
    isLeap year = true ↔ year % 4 = 0 ∧ (year % 100 ≠ 0 ∨ year % 400 = 0) := by
  simp [isLeap]

theorem monthLength_pos (year : Int) (month : Nat) : 1 ≤ monthLength year month := by
  unfold monthLength
  split_ifs <;> decide

theorem monthLength_bounds (year : Int) (month : Nat) :
    28 ≤ monthLength year month ∧ monthLength year month ≤ 31 := by
  unfold monthLength
  split_ifs <;> omega

/-- Each month begins where the one before it ends. -/
theorem firstOfMonth_next (year : Int) {month : Nat} (low : 1 ≤ month) (high : month ≤ 12) :
    firstOfMonth (nextMonth year month).1 (nextMonth year month).2
      = firstOfMonth year month + monthLength year month := by
  have leap := isLeap_iff year
  by_cases february : month = 2
  · -- the only month whose length depends on the year
    subst february
    simp only [nextMonth, firstOfMonth, fromMarch, monthLength]
    by_cases h : isLeap year = true
    · have h' := leap.mp h
      simp only [h]
      norm_num
      omega
    · have h' := mt leap.mpr h
      simp only [h]
      norm_num
      omega
  · simp only [nextMonth, firstOfMonth, fromMarch, monthLength, if_neg february]
    interval_cases month <;> first | exact absurd rfl february | (norm_num; omega)

/-- Twelve months on, a year has passed. -/
theorem firstOfMonth_year_succ (year : Int) :
    firstOfMonth (year + 1) 1 = firstOfMonth year 1 + (if isLeap year then 366 else 365) := by
  have leap := isLeap_iff year
  simp only [firstOfMonth, fromMarch]
  by_cases h : isLeap year = true
  · have h' := leap.mp h
    simp only [h]
    norm_num
    omega
  · have h' := mt leap.mpr h
    simp only [h]
    norm_num
    omega

/-! ## Years of an era -/

/-- The days of an era are centuries, cycles of four years, years and days. Only the last year
of a cycle may have 366 days, and not at the end of a century, unless that ends the era. -/
theorem era_split {d : Int} (low : 0 ≤ d) (high : d < 146097) :
    ∃ century cycle year day : Int,
      d = 36524 * century + 1461 * cycle + 365 * year + day ∧
      0 ≤ century ∧ century ≤ 3 ∧ 0 ≤ cycle ∧ cycle ≤ 24 ∧ 0 ≤ year ∧ year ≤ 3 ∧
      0 ≤ day ∧ day ≤ 365 ∧ (day = 365 → year = 3 ∧ (cycle = 24 → century = 3)) := by
  obtain ⟨century, hc⟩ : ∃ c, c = min 3 (d / 36524) := ⟨_, rfl⟩
  obtain ⟨inCentury, hi⟩ : ∃ i, i = d - 36524 * century := ⟨_, rfl⟩
  obtain ⟨cycle, hy⟩ : ∃ y, y = inCentury / 1461 := ⟨_, rfl⟩
  obtain ⟨inCycle, hj⟩ : ∃ j, j = inCentury - 1461 * cycle := ⟨_, rfl⟩
  obtain ⟨year, hk⟩ : ∃ k, k = min 3 (inCycle / 365) := ⟨_, rfl⟩
  have hCentury : 0 ≤ century ∧ century ≤ 3 := by omega
  have hInCentury : 0 ≤ inCentury ∧ inCentury ≤ 36524 ∧ (inCentury = 36524 → century = 3) := by
    omega
  have hCycle : 0 ≤ cycle ∧ cycle ≤ 24 := by omega
  have hInCycle : 0 ≤ inCycle ∧ inCycle ≤ 1460 := by omega
  refine ⟨century, cycle, year, inCycle - 365 * year, by omega, hCentury.1, hCentury.2,
    hCycle.1, hCycle.2, by omega, by omega, by omega, by omega, fun last => ⟨by omega, ?_⟩⟩
  intro lastCycle
  omega

/-- The year of a day of an era, from 0. -/
def yearOfEra (d : Int) : Int := (d - d / 1460 + d / 36524 - d / 146096) / 365

/-- The formula for the year of an era drops exactly the leap days that are past. -/
theorem yearOfEra_eq {century cycle year day : Int}
    (hc : 0 ≤ century ∧ century ≤ 3) (hy : 0 ≤ cycle ∧ cycle ≤ 24) (hk : 0 ≤ year ∧ year ≤ 3)
    (hd : 0 ≤ day ∧ day ≤ 365) (last : day = 365 → year = 3 ∧ (cycle = 24 → century = 3)) :
    yearOfEra (36524 * century + 1461 * cycle + 365 * year + day)
      = 100 * century + 4 * cycle + year := by
  obtain ⟨d, hd'⟩ : ∃ d, d = 36524 * century + 1461 * cycle + 365 * year + day := ⟨_, rfl⟩
  -- the fourth century is one day longer; both corrections come in on that day
  have centuries : d / 36524 - d / 146096 = century := by
    obtain ⟨lo, hi⟩ := hc
    interval_cases century <;> omega
  have cycles : d / 1460 = 25 * century + cycle ∨ d / 1460 = 25 * century + cycle + 1 := by
    omega
  rw [yearOfEra, ← hd']
  rcases cycles with same | next
  · omega
  · omega

/-! ## Dates of day numbers -/

/-- The date on a day of a year that begins in March. -/
def ofMarch (year day : Int) : Date :=
  let m := (5 * day + 2) / 153
  let dayOfMonth := day - (153 * m + 2) / 5 + 1
  if m < 10 then ⟨year, (m + 3).toNat, dayOfMonth.toNat⟩
  else ⟨year + 1, (m - 9).toNat, dayOfMonth.toNat⟩

/-- A day number as a year that begins in March and a day of it. -/
theorem ofDayNumber_eq_ofMarch (n : Int) :
    ∃ year day : Int, ofDayNumber n = ofMarch year day ∧
      n = 365 * year + year / 4 - year / 100 + year / 400 + day - 719468 ∧
      0 ≤ day ∧ day ≤ 365 ∧ (day = 365 → isLeap (year + 1) = true) := by
  obtain ⟨era, he⟩ : ∃ e, e = (n + 719468) / 146097 := ⟨_, rfl⟩
  obtain ⟨d, hd⟩ : ∃ d, d = (n + 719468) % 146097 := ⟨_, rfl⟩
  obtain ⟨century, cycle, year, day, split, hc, hc', hy, hy', hk, hk', hr, hr', last⟩ :=
    era_split (show 0 ≤ d by omega) (show d < 146097 by omega)
  have years : yearOfEra d = 100 * century + 4 * cycle + year := by
    rw [split]
    exact yearOfEra_eq ⟨hc, hc'⟩ ⟨hy, hy'⟩ ⟨hk, hk'⟩ ⟨hr, hr'⟩ last
  obtain ⟨y, hyear⟩ : ∃ y, y = 100 * century + 4 * cycle + year := ⟨_, rfl⟩
  have quarters : y / 4 = 25 * century + cycle := by omega
  have hundreds : y / 100 = century := by omega
  have unfolded : ofDayNumber n
      = ofMarch (yearOfEra d + era * 400)
          (d - (365 * yearOfEra d + yearOfEra d / 4 - yearOfEra d / 100)) := by
    rw [hd, he]
    rfl
  have dayOfYear : d - (365 * yearOfEra d + yearOfEra d / 4 - yearOfEra d / 100) = day := by
    rw [years, ← hyear, quarters, hundreds]
    omega
  refine ⟨y + era * 400, day, ?_, ?_, hr, hr', fun h => ?_⟩
  · rw [unfolded, dayOfYear, years, hyear]
  · have fours : (y + era * 400) / 4 = y / 4 + era * 100 := by omega
    have centuries : (y + era * 400) / 100 = y / 100 + era * 4 := by omega
    have eras : (y + era * 400) / 400 = era := by omega
    rw [fours, centuries, eras, quarters, hundreds]
    omega
  · obtain ⟨hthree, hend⟩ := last h
    rw [isLeap_iff]
    omega

/-- The date on a day of a year from March exists, and its day number is that day. -/
theorem valid_ofMarch {year day : Int} (low : 0 ≤ day) (high : day ≤ 365)
    (last : day = 365 → isLeap (year + 1) = true) :
    (ofMarch year day).Valid ∧
      (ofMarch year day).dayNumber
        = 365 * year + year / 4 - year / 100 + year / 400 + day - 719468 := by
  obtain ⟨m, hm⟩ : ∃ m, m = (5 * day + 2) / 153 := ⟨_, rfl⟩
  have bounds : 0 ≤ m ∧ m ≤ 11 := by omega
  unfold ofMarch
  rw [← hm]
  by_cases february : m = 11
  · -- the 29th is there exactly when the year has 366 days
    have short : isLeap (year + 1) = false → day < 365 := by
      intro common
      rcases Int.lt_or_eq_of_le high with lt | rfl
      · exact lt
      · rw [last rfl] at common
        cases common
    subst february
    simp only [Valid, dayNumber, firstOfMonth, fromMarch, monthLength]
    norm_num
    cases leap : isLeap (year + 1) with
    | false =>
      have := short leap
      norm_num
      omega
    | true =>
      norm_num
      omega
  · obtain ⟨lo, hi⟩ := bounds
    simp only [Valid, dayNumber, firstOfMonth, fromMarch, monthLength]
    interval_cases m <;> first | exact absurd rfl february | (norm_num; omega)

/-- Every day number has a date that exists, and counting that date gives the number back. -/
theorem valid_ofDayNumber (n : Int) : (ofDayNumber n).Valid := by
  obtain ⟨year, day, same, -, low, high, last⟩ := ofDayNumber_eq_ofMarch n
  rw [same]
  exact (valid_ofMarch low high last).1

theorem dayNumber_ofDayNumber (n : Int) : (ofDayNumber n).dayNumber = n := by
  obtain ⟨year, day, same, count, low, high, last⟩ := ofDayNumber_eq_ofMarch n
  rw [same, (valid_ofMarch low high last).2]
  exact count.symm

/-! ## The order of months and years -/

/-- The first day of the month with a number, counted from January of year 0. -/
def monthStart (k : Int) : Int := firstOfMonth (k / 12) ((k % 12).toNat + 1)

theorem monthStart_eq (year : Int) {month : Nat} (low : 1 ≤ month) (high : month ≤ 12) :
    monthStart (12 * year + month - 1) = firstOfMonth year month := by
  have hy : (12 * year + (month : Int) - 1) / 12 = year := by omega
  have hm : ((12 * year + (month : Int) - 1) % 12).toNat + 1 = month := by omega
  rw [monthStart, hy, hm]

theorem monthStart_succ (year : Int) {month : Nat} (low : 1 ≤ month) (high : month ≤ 12) :
    monthStart (12 * year + month) = firstOfMonth year month + monthLength year month := by
  rw [← firstOfMonth_next year low high, nextMonth]
  split_ifs with december
  · show _ = firstOfMonth (year + 1) 1
    rw [← monthStart_eq (year + 1) (by decide) (by decide)]
    congr 1
    omega
  · show _ = firstOfMonth year (month + 1)
    rw [← monthStart_eq year (by omega) (by omega)]
    congr 1
    omega

theorem strictMono_monthStart : StrictMono monthStart := by
  refine strictMono_int_of_lt_succ fun k => ?_
  obtain ⟨month, hm⟩ : ∃ m, m = (k % 12).toNat + 1 := ⟨_, rfl⟩
  have hk : k = 12 * (k / 12) + (month : Int) - 1 := by omega
  have low : 1 ≤ month := by omega
  have high : month ≤ 12 := by omega
  have next : k + 1 = 12 * (k / 12) + (month : Int) := by omega
  have length := (monthLength_bounds (k / 12) month).1
  rw [next, monthStart_succ _ low high]
  nth_rewrite 1 [hk]
  rw [monthStart_eq _ low high]
  omega

/-- A date that exists lies between the first of its month and the first of the next. -/
theorem Valid.dayNumber_bounds {date : Date} (h : date.Valid) :
    monthStart (12 * date.year + date.month - 1) ≤ date.dayNumber ∧
      date.dayNumber < monthStart (12 * date.year + date.month) := by
  obtain ⟨low, high, first, last⟩ := h
  rw [monthStart_eq _ low high, monthStart_succ _ low high, dayNumber]
  omega

/-- Dates that exist have different numbers. -/
theorem Valid.eq_of_dayNumber_eq {d e : Date} (hd : d.Valid) (he : e.Valid)
    (same : d.dayNumber = e.dayNumber) : d = e := by
  obtain ⟨dl, dh⟩ := hd.dayNumber_bounds
  obtain ⟨el, eh⟩ := he.dayNumber_bounds
  -- neither month lies before the other
  have before := strictMono_monthStart.lt_iff_lt.mp (lt_of_le_of_lt dl (same ▸ eh))
  have behind := strictMono_monthStart.lt_iff_lt.mp (lt_of_le_of_lt el (same ▸ dh))
  obtain ⟨dm, dm', -⟩ := hd
  obtain ⟨em, em', -⟩ := he
  have years : d.year = e.year := by omega
  have months : d.month = e.month := by omega
  have days : d.day = e.day := by
    rw [dayNumber, dayNumber, years, months] at same
    omega
  cases d
  cases e
  simp_all

/-- Counting a date that exists and looking the number up gives the date back. -/
theorem ofDayNumber_dayNumber {date : Date} (h : date.Valid) :
    ofDayNumber date.dayNumber = date :=
  (valid_ofDayNumber _).eq_of_dayNumber_eq h (dayNumber_ofDayNumber _)

theorem ofDayNumber_firstOfMonth (year : Int) {month : Nat} (low : 1 ≤ month)
    (high : month ≤ 12) : ofDayNumber (firstOfMonth year month) = ⟨year, month, 1⟩ := by
  have valid : Valid ⟨year, month, 1⟩ :=
    ⟨low, high, le_rfl, monthLength_pos year month⟩
  have count : dayNumber ⟨year, month, 1⟩ = firstOfMonth year month := by
    show firstOfMonth year month + 1 - 1 = _
    omega
  rw [← count]
  exact ofDayNumber_dayNumber valid

/-- The day that the month behind a month begins with. -/
theorem ofDayNumber_firstOfNext (year : Int) {month : Nat} (low : 1 ≤ month) (high : month ≤ 12) :
    ofDayNumber (firstOfMonth (nextMonth year month).1 (nextMonth year month).2)
      = ⟨(nextMonth year month).1, (nextMonth year month).2, 1⟩ := by
  unfold nextMonth
  split_ifs with december
  · exact ofDayNumber_firstOfMonth (year + 1) (le_refl 1) (by decide : 1 ≤ 12)
  · exact ofDayNumber_firstOfMonth year (by omega) (by omega)

/-- The day before a month begins is the last day of the month before it. -/
theorem ofDayNumber_beforeNext (year : Int) {month : Nat} (low : 1 ≤ month) (high : month ≤ 12) :
    ofDayNumber (firstOfMonth (nextMonth year month).1 (nextMonth year month).2 - 1)
      = ⟨year, month, monthLength year month⟩ := by
  have valid : Valid ⟨year, month, monthLength year month⟩ :=
    ⟨low, high, monthLength_pos year month, le_rfl⟩
  have count : dayNumber ⟨year, month, monthLength year month⟩
      = firstOfMonth year month + monthLength year month - 1 := rfl
  rw [firstOfMonth_next year low high, ← count]
  exact ofDayNumber_dayNumber valid

theorem firstOfMonth_january (year : Int) : firstOfMonth year 1 = monthStart (12 * year) := by
  rw [← monthStart_eq year (by decide) (by decide)]
  congr 1
  omega

theorem firstOfMonth_lt_iff {y z : Int} : firstOfMonth y 1 < firstOfMonth z 1 ↔ y < z := by
  rw [firstOfMonth_january, firstOfMonth_january, strictMono_monthStart.lt_iff_lt]
  omega

/-- A day number lies in the year of its date. -/
theorem year_bounds (n : Int) :
    firstOfMonth (ofDayNumber n).year 1 ≤ n ∧ n < firstOfMonth ((ofDayNumber n).year + 1) 1 := by
  have valid := valid_ofDayNumber n
  obtain ⟨low, high⟩ := valid.dayNumber_bounds
  obtain ⟨first, last, -⟩ := valid
  rw [dayNumber_ofDayNumber] at low high
  rw [firstOfMonth_january, firstOfMonth_january]
  constructor
  · refine le_trans (strictMono_monthStart.monotone ?_) low
    omega
  · refine lt_of_lt_of_le high (strictMono_monthStart.monotone ?_)
    omega

/-- A year is reached on its first day. -/
theorem le_year_iff (y n : Int) : y ≤ (ofDayNumber n).year ↔ firstOfMonth y 1 ≤ n := by
  obtain ⟨low, high⟩ := year_bounds n
  constructor
  · intro h
    rcases lt_or_eq_of_le h with lt | rfl
    · exact le_trans (firstOfMonth_lt_iff.mpr lt).le low
    · exact low
  · intro h
    have := firstOfMonth_lt_iff.mp (lt_of_le_of_lt h high)
    omega

/-- The day of the year counts from the first of January and stays below 366. -/
theorem yearDayOf_spec (n : Int) :
    (yearDayOf n : Int) = n - firstOfMonth (ofDayNumber n).year 1 ∧ yearDayOf n < 366 := by
  obtain ⟨low, high⟩ := year_bounds n
  rw [firstOfMonth_year_succ] at high
  rw [yearDayOf]
  split_ifs at high <;> omega

/-! ## Weeks -/

/-- The Thursday of a week that begins on Monday is three days before the next Sunday. -/
theorem thursdayOf_eq (n : Int) :
    thursdayOf n = n + ((7 - (weekdayOf n : Int)) % 7) - 3 := by
  rw [thursdayOf, weekdayOf]
  omega

theorem weekdayOf_lt (n : Int) : weekdayOf n < 7 := by
  rw [weekdayOf]
  omega

end DatePattern.Date
