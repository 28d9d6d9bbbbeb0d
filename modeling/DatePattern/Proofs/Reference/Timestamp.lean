import DatePattern.Plan.Compile
import DatePattern.Proofs.Dialect.ReadBack
import DatePattern.Proofs.Reference.Chronology

/-!
# The reference and the timestamp literal

A moment is written twice: by the reference under the format `Y-m-d H:i:s`, and by SQL as a
timestamp literal. Both write the date and time that the clock shows, and they differ in one thing
only. The reference pads the numeral of a year together with its minus sign, the literal pads the
digits behind the sign:

- `padded_eq_yearText_iff`: the years that are written alike;
- `stamp_eq_clockText_iff`: so are then the whole timestamps;
- `quoted?_timestamp`: what a timestamp literal quotes.
-/

namespace DatePattern

/-! ## Years -/

namespace Decimal

/-- Padding behind a sign is padding with the sign exactly when there is nothing to pad. -/
theorem padLeft_sign_iff (width : Nat) (sign : UInt8) (digits : Text) :
    padLeft (width + 1) (sign :: digits) = sign :: padLeft (width + 1) digits
      ↔ width < digits.length := by
  constructor
  · intro same
    have lengths := congrArg List.length same
    rw [length_padLeft_eq_max, List.length_cons, List.length_cons, length_padLeft_eq_max] at lengths
    omega
  · intro wide
    rw [padLeft_of_le wide, padLeft_of_le]
    rw [List.length_cons]
    omega

end Decimal

namespace Reference

theorem padded_eq_yearText_iff (year : Int) :
    padded 4 year = Moment.yearText year ↔ 0 ≤ year ∨ year ≤ -1000 := by
  cases year with
  | ofNat n =>
    have same : padded 4 (Int.ofNat n) = Moment.yearText (Int.ofNat n) := rfl
    exact iff_of_true same (.inl (Int.natCast_nonneg n))
  | negSucc n =>
    have text : Moment.yearText (Int.negSucc n)
        = 0x2D :: Decimal.padLeft 4 (Decimal.ofNat (n + 1)) := by
      rw [Moment.yearText, if_pos (Int.negSucc_lt_zero n)]
      rfl
    have digits := Decimal.length_ofNat_le_iff (n := n + 1) (show 0 < 3 by decide)
    show Decimal.padLeft 4 (0x2D :: Decimal.ofNat (n + 1)) = _ ↔ _
    rw [text, Decimal.padLeft_sign_iff]
    omega

/-! ## Timestamps -/

/-- The two timestamps of a moment share everything behind the year. -/
theorem stamp_eq_clockText_iff (t : Moment) :
    stamp t = t.clockText " " ↔ 0 ≤ t.date.year ∨ t.date.year ≤ -1000 := by
  obtain ⟨rest, reference⟩ : ∃ rest, stamp t = padded 4 t.date.year ++ rest := ⟨_, rfl⟩
  have literal : t.clockText " " = Moment.yearText t.date.year ++ rest := by
    have behind := List.append_cancel_left reference
    rw [← behind, Moment.clockText, Moment.dateText, Moment.timeText]
    simp only [List.append_assoc]
    rfl
  rw [reference, literal, List.append_left_inj]
  exact padded_eq_yearText_iff t.date.year

end Reference

/-- The text of the first string literal in a piece of SQL. -/
def quoted? (backslash : Bool) (sql : Text) : Option Text :=
  (readString backslash (sql.dropWhile (· != 0x27))).map Prod.fst

/-- A string literal behind text without quotes is the first. -/
theorem quoted?_string (g : Grammar) (front text rest : Text)
    (plain : front.all (· != 0x27) = true) (ends : rest.head? ≠ some 0x27) :
    quoted? g.backslash (front ++ g.string text ++ rest) = some text := by
  have reached : (front ++ g.string text ++ rest).dropWhile (· != 0x27)
      = g.string text ++ rest := by
    rw [List.append_assoc, List.dropWhile_append_of_pos (List.all_eq_true.mp plain),
      Grammar.string_eq]
    rfl
  rw [quoted?, reached, readString_string g text ends]
  rfl

/-- Except for SQL Server, a timestamp literal quotes the date and the time with a blank between
them. -/
theorem quoted?_timestamp {engine : Engine} (blank : engine ≠ .sqlserver) (t : Moment) :
    quoted? engine.grammar.backslash (Sql.timestamp engine.grammar t)
      = some (t.clockText " ") := by
  cases engine with
  | mysql =>
    exact quoted?_string Engine.mysql.grammar "timestamp(" (t.clockText " ") ")" rfl (by decide)
  | sqlite =>
    have literal :=
      quoted?_string Engine.sqlite.grammar [] (t.clockText " ") [] rfl (by decide)
    rwa [List.nil_append, List.append_nil] at literal
  | postgres =>
    have literal :=
      quoted?_string Engine.postgres.grammar "timestamp " (t.clockText " ") [] rfl (by decide)
    rwa [List.append_nil] at literal
  | sqlserver => exact absurd rfl blank

namespace Reference

/-- **Where the reference and the timestamp literal agree.** On MySQL, SQLite and PostgreSQL, the
text that the literal of a moment quotes is what the reference renders exactly when the year is
not one of -999 to -1. -/
theorem timestamps_agree_iff {engine : Engine} (blank : engine ≠ .sqlserver) (t : Moment) :
    ∃ text sql, render t "Y-m-d H:i:s" = .ok text ∧
      (Expr.timestamp t : SqlExpr).sql engine.grammar = .ok sql ∧
      (quoted? engine.grammar.backslash sql = some text
        ↔ 0 ≤ t.date.year ∨ t.date.year ≤ -1000) := by
  refine ⟨stamp t, Sql.timestamp engine.grammar t, render_stamp t, rfl, ?_⟩
  rw [quoted?_timestamp blank, Option.some_inj, eq_comm]
  exact stamp_eq_clockText_iff t

/-- The first second of year 10000, and a negative year of four digits. -/
theorem timestamps_agree_iff_wide_years :
    let t := Moment.ofClock 9999 12 31 23 59 60 0 0
    let u := Moment.ofClock (-1000) 12 31 23 59 59 0 (-3600)
    Engine.postgres ≠ .sqlserver ∧ t.date.year = 10000 ∧ u.date.year = -1000 ∧
      (∃ text sql, render t "Y-m-d H:i:s" = .ok text ∧
        (Expr.timestamp t : SqlExpr).sql Engine.postgres.grammar = .ok sql ∧
        quoted? Engine.postgres.grammar.backslash sql = some text) ∧
      ∃ text sql, render u "Y-m-d H:i:s" = .ok text ∧
        (Expr.timestamp u : SqlExpr).sql Engine.postgres.grammar = .ok sql ∧
        quoted? Engine.postgres.grammar.backslash sql = some text := by
  intro t u
  have blank : Engine.postgres ≠ .sqlserver := by decide
  have wide : t.date.year = 10000 := by decide
  have early : u.date.year = -1000 := by decide
  obtain ⟨text, sql, rendered, written, agree⟩ := timestamps_agree_iff blank t
  obtain ⟨text', sql', rendered', written', agree'⟩ := timestamps_agree_iff blank u
  refine ⟨blank, wide, early, ⟨text, sql, rendered, written, agree.mpr ?_⟩,
    ⟨text', sql', rendered', written', agree'.mpr ?_⟩⟩
  · rw [wide]
    decide
  · rw [early]
    decide

/-- In the year -4 the reference puts its zeros in front of the minus sign. -/
theorem timestamps_differ_before_year_zero :
    let t := Moment.ofClock (-4) 3 15 12 0 0 0 0
    render t "Y-m-d H:i:s" = .ok "00-4-03-15 12:00:00" ∧
      (Expr.timestamp t : SqlExpr).sql Engine.mysql.grammar
        = .ok "timestamp('-0004-03-15 12:00:00')" ∧
      quoted? Engine.mysql.grammar.backslash "timestamp('-0004-03-15 12:00:00')"
        = some "-0004-03-15 12:00:00" ∧
      ("-0004-03-15 12:00:00" : Text) ≠ "00-4-03-15 12:00:00" := by
  intro t
  have reference : stamp t = "00-4-03-15 12:00:00" := by decide
  have literal : Sql.timestamp Engine.mysql.grammar t = "timestamp('-0004-03-15 12:00:00')" := by
    decide
  refine ⟨?_, congrArg Except.ok literal, by decide, by decide⟩
  rw [render_stamp, reference]

end Reference

end DatePattern
