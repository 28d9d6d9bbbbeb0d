import DatePattern.Proofs.Calendar.Moment
import DatePattern.Proofs.Number.Width
import DatePattern.Proofs.Pattern.Acceptance

/-!
# Timestamps sort as moments

A timestamp `Y-m-d H:i:s` has its largest field in front, and in the years 0 to 9999 every field has
a fixed width. So timestamps of one zone sort bytewise as their moments do:

- `stamp`, `render_stamp`: the text of a timestamp, field by field;
- `field_lt`: a field is compared before what stands behind it;
- `stamp_lt_stamp`: a clock that is behind in its largest field that differs has the smaller
  timestamp.
-/

namespace DatePattern.Reference

/-- The date and time that a clock shows, largest field first. -/
def stamp (t : Moment) : Text :=
  padded 4 t.date.year ++ ("-" ++ (padded 2 t.date.month ++ ("-" ++ (padded 2 t.date.day ++ (" " ++
    (padded 2 t.hour ++ (":" ++ (padded 2 t.minute ++ (":" ++ padded 2 t.second)))))))))

theorem render_stamp (t : Moment) : render t "Y-m-d H:i:s" = .ok (stamp t) := by
  have chars : ("Y-m-d H:i:s" : Text) = Text.ofChars "Y-m-d H:i:s".toList := rfl
  rw [chars, render_plain t (by decide)]
  show Except.ok (List.flatMap _ ['Y', '-', 'm', '-', 'd', ' ', 'H', ':', 'i', ':', 's']) = _
  simp only [List.flatMap_cons, List.flatMap_nil, List.append_nil]
  rfl

/-- Clocks that show the same have one timestamp. -/
theorem stamp_congr {t u : Moment} (same : t.clock = u.clock) : stamp t = stamp u := by
  have day : t.dayNumber = u.dayNumber := by rw [Moment.dayNumber, same, Moment.dayNumber]
  have second : t.secondOfDay = u.secondOfDay := by
    rw [Moment.secondOfDay, same, Moment.secondOfDay]
  simp only [stamp, Moment.date, Moment.hour, Moment.minute, Moment.second, day, second]

/-- A field of a fixed width is compared before what stands behind it and its separator. -/
theorem field_lt {width n m : Nat} (positive : 0 < width) (hn : n < 10 ^ width)
    (hm : m < 10 ^ width) (separator : Text) {a b : Text} {later : Prop}
    (h : n < m ∨ n = m ∧ later) (behind : later → a < b) :
    padded width n ++ (separator ++ a) < padded width m ++ (separator ++ b) := by
  refine Decimal.padLeft_append_lt positive hn hm ?_
  rcases h with lt | ⟨same, rest⟩
  · exact .inl lt
  · exact .inr ⟨same, List.append_left_lt (behind rest)⟩

theorem stamp_lt_stamp {t u : Moment} (ht : 0 ≤ t.date.year ∧ t.date.year ≤ 9999)
    (hu : 0 ≤ u.date.year ∧ u.date.year ≤ 9999) (before : t.Before u) : stamp t < stamp u := by
  obtain ⟨y, hy⟩ : ∃ y : Nat, t.date.year = y := ⟨t.date.year.toNat, by omega⟩
  obtain ⟨z, hz⟩ : ∃ z : Nat, u.date.year = z := ⟨u.date.year.toNat, by omega⟩
  -- one chain of comparisons, from the year down to the second
  have fields : y < z ∨ y = z ∧ (t.date.month < u.date.month ∨ t.date.month = u.date.month ∧
      (t.date.day < u.date.day ∨ t.date.day = u.date.day ∧ (t.hour < u.hour ∨ t.hour = u.hour ∧
        (t.minute < u.minute ∨ t.minute = u.minute ∧ t.second < u.second)))) := by
    rw [Moment.Before, Date.Before, hy, hz] at before
    rcases before with date | ⟨same, time⟩
    · omega
    · have years : (y : Int) = z := by rw [← hy, ← hz, same]
      rw [same]
      omega
  have hour := t.hour_lt
  have hour' := u.hour_lt
  have minute := t.minute_lt
  have minute' := u.minute_lt
  have second' := u.second_lt
  rw [stamp, stamp, hy, hz]
  refine field_lt (by decide) (by omega) (by omega) "-" fields fun month => ?_
  refine field_lt (by decide) t.month_lt u.month_lt "-" month fun day => ?_
  refine field_lt (by decide) t.day_lt u.day_lt " " day fun hours => ?_
  refine field_lt (by decide) (by omega) (by omega) ":" hours fun minutes => ?_
  refine field_lt (by decide) (by omega) (by omega) ":" minutes fun seconds => ?_
  exact Decimal.padLeft_lt_padLeft (by decide) seconds (by omega)

/-- **Timestamps sort chronologically.** In one zone and the years 0 to 9999, the timestamp of a
moment is bytewise less than that of another exactly when its second comes first, and the two are
equal exactly when the seconds are. -/
theorem timestamps_sort_chronologically {t u : Moment} (zone : t.offset = u.offset)
    (ht : 0 ≤ t.date.year ∧ t.date.year ≤ 9999) (hu : 0 ≤ u.date.year ∧ u.date.year ≤ 9999) :
    ∃ a b, render t "Y-m-d H:i:s" = .ok a ∧ render u "Y-m-d H:i:s" = .ok b ∧
      (a < b ↔ t.unix < u.unix) ∧ (a = b ↔ t.unix = u.unix) := by
  -- in one zone the clocks are ahead by the same
  have clocks : ∀ {v w : Moment}, v.offset = w.offset → v.unix < w.unix → v.clock < w.clock := by
    intro v w offset lt
    rw [Moment.clock, Moment.clock, offset]
    omega
  refine ⟨stamp t, stamp u, render_stamp t, render_stamp u, ?_⟩
  rcases lt_trichotomy t.unix u.unix with lt | same | gt
  · have less := stamp_lt_stamp ht hu (Moment.before_of_lt (clocks zone lt))
    refine ⟨iff_of_true less lt, iff_of_false ?_ lt.ne⟩
    exact fun equal => List.lt_irrefl (stamp u) (equal ▸ less)
  · have equal : stamp t = stamp u := stamp_congr (by rw [Moment.clock, Moment.clock, zone, same])
    refine ⟨iff_of_false ?_ same.not_lt, iff_of_true equal same⟩
    exact equal ▸ List.lt_irrefl _
  · have less := stamp_lt_stamp hu ht (Moment.before_of_lt (clocks zone.symm gt))
    refine ⟨iff_of_false (List.lt_asymm less) gt.not_gt, iff_of_false ?_ gt.ne'⟩
    exact fun equal => List.lt_irrefl (stamp u) (equal ▸ less)

/-- The end of a leap day in year 0, long before 1970. -/
theorem timestamps_sort_chronologically_leap_day :
    let t := Moment.ofClock 0 2 29 23 59 59 0 (-3600)
    let u := Moment.ofClock 0 3 1 0 0 0 0 (-3600)
    t.offset = u.offset ∧ (0 ≤ t.date.year ∧ t.date.year ≤ 9999) ∧
      (0 ≤ u.date.year ∧ u.date.year ≤ 9999) ∧ t.unix < u.unix ∧
      ∃ a b, render t "Y-m-d H:i:s" = .ok a ∧ render u "Y-m-d H:i:s" = .ok b ∧ a < b ∧ a ≠ b := by
  intro t u
  have zone : t.offset = u.offset := (Zone.offsetAt_fixed _ _).trans (Zone.offsetAt_fixed _ _).symm
  have ht : 0 ≤ t.date.year ∧ t.date.year ≤ 9999 := by decide
  have hu : 0 ≤ u.date.year ∧ u.date.year ≤ 9999 := by decide
  have lt : t.unix < u.unix := by decide
  obtain ⟨a, b, textA, textB, order, same⟩ := timestamps_sort_chronologically zone ht hu
  exact ⟨zone, ht, hu, lt, a, b, textA, textB, order.mpr lt, mt same.mp lt.ne⟩

end DatePattern.Reference
