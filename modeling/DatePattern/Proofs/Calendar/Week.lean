import DatePattern.Proofs.Calendar.Date

/-!
# Weeks count every day once

A week runs from Monday to Sunday and belongs to the year of its Thursday. Day 0 is a Thursday, so
Thursdays are the multiples of seven:

- `weekOf_eq_iff`: two days have the same year and number of the week exactly when they have the
  same Thursday. Thursdays of one year that are counted alike are less than a week apart;
- `eq_iff_weekOf`: with the weekday these determine the day;
- `weekOf_january_fourth`: the Thursday of the week of 4 January lies in the first seven days of the
  year.
-/

namespace DatePattern.Date

theorem thursdayOf_eq_mul (n : Int) : thursdayOf n = 7 * ((n + 3) / 7) := by
  rw [thursdayOf]
  omega

/-- The number of a week counts the Thursdays of its year. -/
theorem weekOf_snd (n : Int) :
    ((weekOf n).2 : Int) = (thursdayOf n - firstOfMonth (weekOf n).1 1) / 7 + 1 := by
  have day := (yearDayOf_spec (thursdayOf n)).1
  show ((yearDayOf (thursdayOf n) / 7 + 1 : Nat) : Int)
    = (thursdayOf n - firstOfMonth (ofDayNumber (thursdayOf n)).year 1) / 7 + 1
  omega

/-- A year has at most 53 weeks. -/
theorem week_bounds (n : Int) : 1 ≤ (weekOf n).2 ∧ (weekOf n).2 ≤ 53 := by
  have day := (yearDayOf_spec (thursdayOf n)).2
  show 1 ≤ yearDayOf (thursdayOf n) / 7 + 1 ∧ yearDayOf (thursdayOf n) / 7 + 1 ≤ 53
  omega

/-- A week is its Thursday. -/
theorem weekOf_eq_iff (n m : Int) : weekOf n = weekOf m ↔ thursdayOf n = thursdayOf m := by
  constructor
  · intro same
    have hn := weekOf_snd n
    have hm := weekOf_snd m
    rw [same] at hn
    rw [thursdayOf_eq_mul] at hn hm ⊢
    rw [thursdayOf_eq_mul]
    omega
  · intro same
    rw [weekOf, same, weekOf]

/-- **The week and the weekday determine the day.** -/
theorem eq_iff_weekOf (n m : Int) :
    n = m ↔ weekOf n = weekOf m ∧ weekdayOf n = weekdayOf m := by
  rw [weekOf_eq_iff, thursdayOf_eq_mul, thursdayOf_eq_mul, weekdayOf, weekdayOf]
  omega

/-- From a Monday on, seven days lie in one week. -/
theorem weekOf_add {n : Int} (monday : weekdayOf n = 1) {k : Nat} (h : k < 7) :
    weekOf (n + k) = weekOf n ∧ weekdayOf (n + k) = (1 + k) % 7 := by
  rw [weekdayOf] at monday
  rw [weekOf_eq_iff, thursdayOf_eq_mul, thursdayOf_eq_mul, weekdayOf]
  omega

/-- The week of 4 January is the first of the year. -/
theorem weekOf_january_fourth (year : Int) : weekOf (dayNumber ⟨year, 1, 4⟩) = (year, 1) := by
  obtain ⟨first, hf⟩ : ∃ f, f = firstOfMonth year 1 := ⟨_, rfl⟩
  have fourth : dayNumber ⟨year, 1, 4⟩ = first + 3 := by
    show firstOfMonth year 1 + 4 - 1 = first + 3
    omega
  obtain ⟨thursday, ht⟩ : ∃ th, th = thursdayOf (first + 3) := ⟨_, rfl⟩
  have near : first ≤ thursday ∧ thursday ≤ first + 6 := by
    rw [thursdayOf_eq_mul] at ht
    omega
  have lies : (ofDayNumber thursday).year = year := by
    have next := firstOfMonth_year_succ year
    have reached := (le_year_iff year thursday).mpr (by omega)
    have before := mt (le_year_iff (year + 1) thursday).mp (by split_ifs at next <;> omega)
    omega
  have count := weekOf_snd (first + 3)
  have owner : (weekOf (first + 3)).1 = year := by
    show (ofDayNumber (thursdayOf (first + 3))).year = year
    rw [← ht, lies]
  rw [fourth]
  refine Prod.ext owner ?_
  rw [owner, ← ht, ← hf] at count
  omega

end DatePattern.Date
