import DatePattern.Capability
import DatePattern.Proofs.Reference.MonthLength
import DatePattern.Proofs.Sqlite.Clock

/-!
# The recipes of SQLite

What SQLite lacks is put together from `strftime` and generic SQL. Each recipe, read back and
evaluated on the literal of a moment, gives what the reference renders:

- `reads_synthesis`, `reads_template`: the terms that recipes are read as;
- `eval_named`, `eval_meridiem`, `eval_unpadded`, `eval_hourOfTwelve`,
  `eval_paddedHourOfTwelve`: the values of the syntheses, given that of the specifier they use;
- `Agrees`, `agrees_table`: every entry of the table, native or emulated, agrees with the
  reference, but for the length of the month in the last month of the calendar, which is null.
-/

namespace DatePattern.Sqlite

/-! ## Reading syntheses -/

/-- One of two names, by whether the hour is before noon. -/
def Term.meridiem (hour : Term) (am pm : Text) : Term :=
  .case [(.binary .lt hour (.string "12"), .string am)] (some (.string pm))

/-- The name that stands beside a key. -/
def Term.named (key : Term) (names : List (Text × Text)) : Term :=
  .case (names.map fun entry => (.binary .eq key (.string entry.1), .string entry.2)) none

/-- A text without zeros in front. -/
def Term.unpadded (x : Term) : Term := .call "ltrim" [x, .string "0"]

/-- The hour of the half day. -/
def Term.hourOfTwelve (hour : Term) : Term :=
  .case [(.binary .eq hour (.string "00"), .string "12"),
      (.binary .gt hour (.string "12"), .binary .sub hour (.number 12))]
    (some hour.unpadded)

/-- The hour of the half day with two digits. -/
def Term.paddedHourOfTwelve (hour : Term) : Term :=
  .case [(.binary .and (.binary .gt hour (.string "00")) (.binary .le hour (.string "12")), hour),
      (.binary .eq hour (.string "00"), .string "12")]
    (some (.call "printf" [.string "%02d", .binary .sub hour (.number 12)]))

/-- The term of a synthesis around a subject; two of them call functions of other engines. -/
def Term.ofSynthesis? (subject : Term) : Synthesis → Option Term
  | .clockMeridiem am pm => some ((strftime "%H" subject).meridiem am pm)
  | .named specifier (entry :: rest) =>
    some ((strftime specifier subject).named (entry :: rest))
  | .unpadded specifier => some (strftime specifier subject).unpadded
  | .hourOfTwelve => some (strftime "%H" subject).hourOfTwelve
  | .paddedHourOfTwelve => some (strftime "%H" subject).paddedHourOfTwelve
  | _ => none

section

variable (format : Empty → Text → Text) {subject : Text} {x : Term}

theorem reads_strftime (hx : Reads subject x) (specifier : Text) :
    Reads ((Synthesis.strftime specifier (.raw subject)).text Engine.sqlite.grammar format)
      (.strftime specifier x) :=
  reads_call drives_strftime (reads_string specifier) (.cons hx .nil)

theorem reads_twelve :
    Reads (Synthesis.twelve.text Engine.sqlite.grammar format) (.number 12) := by
  have written : Synthesis.twelve.text Engine.sqlite.grammar format = "12" := by
    show (Binary.finite false 12 0).plain = "12"
    decide +kernel
  rw [written]
  intro frames
  refine ⟨_, ⟨_, _, _, rfl, rfl, rfl, fun b delimiter => ?_⟩, rfl⟩
  rw [isDelimiter_iff] at delimiter
  rcases delimiter with rfl | rfl | rfl <;> rfl

variable {format}

/-- What a synthesis builds around a subject that can be read is read as its term. -/
theorem reads_build (hx : Reads subject x) {synthesis : Synthesis} {term : Term}
    (h : x.ofSynthesis? synthesis = some term) :
    Reads ((synthesis.build (.raw subject)).text Engine.sqlite.grammar format) term := by
  have hour := reads_strftime format hx "%H"
  cases synthesis with
  | hourMeridiem am pm => cases h
  | partMeridiem am pm => cases h
  | clockMeridiem am pm =>
    cases h
    refine reads_cases (.cons ⟨?_, ?_⟩ .nil) ?_
    · exact reads_operator .lt rfl hour (reads_value "12")
    · exact reads_string am
    · exact reads_string pm
  | named specifier names =>
    cases names with
    | nil => cases h
    | cons entry rest =>
      cases h
      have key := reads_strftime format hx specifier
      have branch : ∀ entry : Text × Text, ReadsBranch
          (branchTexts format
            (.binary .eq (Synthesis.strftime specifier (.raw subject)) (.value entry.1),
              .value entry.2))
          (.binary .eq (.strftime specifier x) (.string entry.1), .string entry.2) :=
        fun entry => ⟨reads_operator .eq rfl key (reads_value entry.1), reads_string entry.2⟩
      refine reads_cases (.cons (branch entry) ?_) trivial
      exact List.forall₂_map_left_iff.mpr (List.forall₂_map_right_iff.mpr
        (List.forall₂_same.mpr fun entry _ => branch entry))
  | unpadded specifier =>
    cases h
    exact reads_ltrim (reads_strftime _ hx specifier) rfl
  | hourOfTwelve =>
    cases h
    refine reads_cases (.cons ⟨?_, ?_⟩ (.cons ⟨?_, ?_⟩ .nil)) ?_
    · exact reads_operator .eq rfl hour (reads_value "00")
    · exact reads_string "12"
    · exact reads_operator .gt rfl hour (reads_value "12")
    · exact reads_operator .sub rfl hour (reads_twelve _)
    · exact reads_ltrim hour rfl
  | paddedHourOfTwelve =>
    cases h
    have printf : ∀ frames, Drives anything (.awaiting frames) ("printf" ++ "(")
        (.awaiting (.args "printf" [] :: frames)) :=
      fun _ => .fixed rfl rfl (fun _ => rfl) rfl
    refine reads_cases (.cons ⟨?_, ?_⟩ (.cons ⟨?_, ?_⟩ .nil)) ?_
    · have positive := reads_operator .gt rfl hour (reads_value "00")
      have others : List.Forall₂ Reads
          (Expr.texts Engine.sqlite.grammar format
            [.binary .le (Synthesis.strftime "%H" (.raw subject)) (.value "12")])
          [.binary .le (.strftime "%H" x) (.string "12")] :=
        .cons (reads_operator .le rfl hour (reads_value "12")) .nil
      exact reads_all positive others
    · exact hour
    · exact reads_operator .eq rfl hour (reads_value "00")
    · exact reads_string "12"
    · have difference := reads_operator .sub rfl hour (reads_twelve _)
      exact reads_call printf (reads_string "%02d") (.cons difference .nil)

theorem reads_synthesis (hx : Reads subject x) {synthesis : Synthesis} {term : Term}
    (h : x.ofSynthesis? synthesis = some term) :
    Reads (synthesis.sql Engine.sqlite.grammar subject) term := reads_build hx h

end

/-! ## Values of syntheses -/

/-- Texts that are each at most the other are equal. -/
theorem le_and_le_iff (a b : Text) : (a.le b && b.le a) = true ↔ a = b := by
  induction a generalizing b with
  | nil => cases b <;> simp [Text.le]
  | cons x a ih =>
    cases b with
    | nil => simp [Text.le]
    | cons y b =>
      have first := ih b
      simp only [Text.le, Bool.and_eq_true, Bool.or_eq_true, decide_eq_true_iff, beq_iff_eq,
        List.cons.injEq] at first ⊢
      constructor
      · rintro ⟨lt | ⟨same, front⟩, gt | ⟨same', back⟩⟩
        · exact absurd gt (UInt8.lt_asymm lt)
        · exact absurd (same' ▸ lt) (UInt8.lt_irrefl _)
        · exact absurd (same ▸ gt) (UInt8.lt_irrefl _)
        · exact ⟨same, first.mp ⟨front, back⟩⟩
      · rintro ⟨rfl, same⟩
        have both := first.mpr same
        exact ⟨.inr ⟨rfl, both.1⟩, .inr ⟨rfl, both.2⟩⟩

/-- A chain of comparisons with keys is a look-up. -/
theorem eval_named {x : Term} {key : Text} (hx : x.eval = some (.text key))
    {names : List (Text × Text)} {name : Text} (found : names.lookup key = some name) :
    (x.named names).eval = some (.text name) := by
  have branches : Term.evalBranches
      (names.map fun entry => (.binary .eq x (.string entry.1), .string entry.2))
        = some (some (.text name)) := by
    induction names with
    | nil => cases found
    | cons entry rest ih =>
      obtain ⟨other, result⟩ := entry
      have condition : (Term.binary .eq x (.string other)).eval
          = some (.ofBool (key.le other && other.le key)) := by
        rw [Term.eval, hx]
        rfl
      rw [List.map_cons, Term.evalBranches, condition]
      by_cases same : key = other
      · have holds := (le_and_le_iff key other).mpr same
        rw [List.lookup_cons, same, beq_self_eq_true] at found
        cases found
        rw [holds]
        rfl
      · have fails : (key.le other && other.le key) = false :=
          Bool.eq_false_iff.mpr (mt (le_and_le_iff key other).mp same)
        rw [List.lookup_cons, beq_false_of_ne same] at found
        rw [fails]
        exact ih found
  rw [Term.named, Term.eval, branches]
  rfl

theorem eval_meridiem {x : Term} {hour : Nat} (h : hour < 24)
    (hx : x.eval = some (.text (Moment.two hour))) (am pm : Text) :
    (x.meridiem am pm).eval = some (.text (if hour < 12 then am else pm)) := by
  simp only [Term.meridiem, Term.eval, Term.evalBranches, Term.evalDefault, hx]
  interval_cases hour <;> rfl

theorem eval_unpadded {x : Term} {n : Nat} (low : 1 ≤ n) (high : n < 100)
    (hx : x.eval = some (.text (Moment.two n))) :
    x.unpadded.eval = some (.text (Decimal.ofNat n)) := by
  simp only [Term.unpadded, Term.eval, Term.evalAll, hx]
  interval_cases n <;> rfl

theorem eval_hourOfTwelve {x : Term} {hour : Nat} (h : hour < 24)
    (hx : x.eval = some (.text (Moment.two hour))) :
    x.hourOfTwelve.eval.bind Value.text?
      = some (Decimal.ofNat (if hour % 12 = 0 then 12 else hour % 12)) := by
  simp only [Term.hourOfTwelve, Term.unpadded, Term.eval, Term.evalBranches, Term.evalDefault,
    Term.evalAll, hx]
  interval_cases hour <;> rfl

theorem eval_paddedHourOfTwelve {x : Term} {hour : Nat} (h : hour < 24)
    (hx : x.eval = some (.text (Moment.two hour))) :
    x.paddedHourOfTwelve.eval
      = some (.text (Moment.two (if hour % 12 = 0 then 12 else hour % 12))) := by
  simp only [Term.paddedHourOfTwelve, Term.eval, Term.evalBranches, Term.evalDefault,
    Term.evalAll, hx]
  interval_cases hour <;> rfl

/-! ## Reading templates -/

/-- A template with one place for its subject, read from both sides of it. -/
theorem reads_template {template : Template} {front back : Text}
    (cut : template.pieces = [front, back]) (delimited : isDelimited back = true)
    {subject : Text} {x term : Term} (hx : Reads subject x)
    (h : ∀ frames, ∃ stack, Drives anything (.awaiting frames) front (.awaiting stack) ∧
      Drives anything (.holding stack x) back (.holding frames term)) :
    Reads (template.render subject) term := by
  intro frames
  obtain ⟨stack, opened, closed⟩ := h frames
  have whole := opened.append ((hx stack).append_delimited closed delimited)
  rw [Template.render_eq, cut]
  show Drives _ _ (front ++ subject ++ back) _
  rw [List.append_assoc]
  exact whole.mono

/-- A call of `strftime` at the Thursday of the week. -/
def Term.thursday (specifier : Text) (subject : Term) : Term :=
  .call "strftime" [.string specifier, subject, .string "weekday 0", .string "-3 days"]

/-- The number of a week from the day of the year of its Thursday. -/
def Term.week (yearDay : Term) : Term :=
  .call "printf" [.string "%02d",
    .binary .add (.binary .div (.binary .sub yearDay (.number 1)) (.number 7)) (.number 1)]

theorem eval_week {x : Term} {n : Nat}
    (hx : x.eval = some (.text (Decimal.padLeft 3 (Decimal.ofNat (n + 1))))) :
    x.week.eval = some (.text (Moment.two (n / 7 + 1))) := by
  have difference : (Term.binary .sub x (.number 1)).eval = some (.integer n) := by
    rw [Term.eval, hx]
    show (Decimal.toInt? _).bind _ = _
    rw [Decimal.toInt?_padLeft_ofNat]
    show some (Value.integer (((n + 1 : Nat) : Int) - 1)) = _
    rw [Nat.cast_succ, Int.add_sub_cancel]
  have quotient : (Term.binary .div (.binary .sub x (.number 1)) (.number 7)).eval
      = some (.integer ((n / 7 : Nat) : Int)) := by
    rw [Term.eval, difference]
    rfl
  rw [Term.week, Term.eval, Term.evalAll, Term.evalAll, Term.eval, Term.eval, quotient]
  rfl

/-! ## The literal of a moment -/

/-- Read as an expression and evaluated, a text has a value that is a given text, or null for no
text. -/
def Yields (sql : Text) (answer : Option Text) : Prop :=
  ∃ term value, Reads sql term ∧ term.eval = some value ∧ value.text? = answer

/-- Whether a format character is lost at a moment: the length of the month in the last month that
the calendar has. -/
def IsLost (t : Moment) (c : Char) : Prop := c = 't' ∧ t.date.year = 9999 ∧ t.date.month = 12

instance (t : Moment) (c : Char) : Decidable (IsLost t c) :=
  inferInstanceAs (Decidable (c = 't' ∧ t.date.year = 9999 ∧ t.date.month = 12))

/-- The text of a format character, or null where it is lost. -/
def answer (t : Moment) (c : Char) (text : Text) : Option Text :=
  if IsLost t c then none else some text

/-- The literal of a moment. -/
def literal (t : Moment) : Term := .string (t.clockText " ")

theorem reads_timestamp (t : Moment) :
    Reads (Sql.timestamp Engine.sqlite.grammar t) (literal t) :=
  reads_string _

/-- An entry of the table agrees with the reference at a moment: a specifier expands to what the
reference renders, and a recipe evaluates to it unless it is lost. -/
def Agrees (t : Moment) (entry : Char × Capability) : Prop :=
  ∃ text, Reference.char? t entry.1 = some text ∧
    match entry.2 with
    | .native specifier =>
      ¬IsLost t entry.1 ∧ ∃ b, specifier = [0x25, b] ∧ (Instant.ofMoment t).specifier? b = some text
    | .emulated recipe =>
      Yields (recipe.sql Engine.sqlite.grammar (Sql.timestamp Engine.sqlite.grammar t))
        (answer t entry.1 text)

theorem agrees_native {t : Moment} {c : Char} {specifier text : Text} (other : c ≠ 't') (b : UInt8)
    (reference : Reference.char? t c = some text) (spelled : specifier = [0x25, b])
    (expanded : (Instant.ofMoment t).specifier? b = some text) :
    Agrees t (c, .native specifier) :=
  ⟨text, reference, fun lost => other lost.1, b, spelled, expanded⟩

theorem agrees_synthesis {t : Moment} {c : Char} {synthesis : Synthesis} {term : Term}
    {value : Value} {text : Text} (reference : Reference.char? t c = some text)
    (h : (literal t).ofSynthesis? synthesis = some term) (evaluated : term.eval = some value)
    (shown : value.text? = answer t c text) : Agrees t (c, .synthesis synthesis) :=
  ⟨text, reference, term, value, reads_synthesis (reads_timestamp t) h, evaluated, shown⟩

theorem agrees_named {t : Moment} {c : Char} {specifier key name : Text}
    {names : List (Text × Text)} (reference : Reference.char? t c = some name)
    (evaluated : (Term.strftime specifier (literal t)).eval = some (.text key))
    (found : names.lookup key = some name) (kept : some name = answer t c name) :
    Agrees t (c, .synthesis (.named specifier names)) := by
  cases names with
  | nil => cases found
  | cons entry rest => exact agrees_synthesis reference rfl (eval_named evaluated found) kept

theorem agrees_template {t : Moment} {c : Char} {template : Template} (front back : Text)
    {term : Term} {value : Value} {text : Text} (reference : Reference.char? t c = some text)
    (cut : template.pieces = [front, back]) (delimited : isDelimited back = true)
    (h : ∀ frames, ∃ stack, Drives anything (.awaiting frames) front (.awaiting stack) ∧
      Drives anything (.holding stack (literal t)) back (.holding frames term))
    (evaluated : term.eval = some value) (shown : value.text? = answer t c text) :
    Agrees t (c, .emulated (.template template)) :=
  ⟨text, reference, term, value, reads_template cut delimited (reads_timestamp t) h, evaluated,
    shown⟩

/-! ### Names -/

theorem lookup_weekdaysShort {w : Nat} (h : w < 7) :
    Capability.weekdaysShort.lookup (Decimal.ofNat w)
      = some ((Reference.weekdayName w).take 3) := by
  interval_cases w <;> rfl

theorem lookup_weekdaysLong {w : Nat} (h : w < 7) :
    Capability.weekdaysLong.lookup (Decimal.ofNat w) = some (Reference.weekdayName w) := by
  interval_cases w <;> rfl

theorem lookup_monthsShort {m : Nat} (low : 1 ≤ m) (high : m ≤ 12) :
    Capability.monthsShort.lookup (Moment.two m) = some ((Reference.monthName m).take 3) := by
  interval_cases m <;> rfl

theorem lookup_monthsLong {m : Nat} (low : 1 ≤ m) (high : m ≤ 12) :
    Capability.monthsLong.lookup (Moment.two m) = some (Reference.monthName m) := by
  interval_cases m <;> rfl

/-! ## The entries of the table -/

section

variable {t : Moment} (low : 1000 ≤ t.date.year) (high : t.date.year ≤ 9999)

include low high

theorem hasDate?_ofMoment : (Instant.ofMoment t).hasDate? = some true :=
  Instant.hasDate?_eq_true (by show 0 ≤ t.date.year; omega) high

/-- The value of `strftime` on the literal, without modifiers. -/
theorem eval_literal (format : Text) :
    (Term.strftime format (literal t)).eval
      = ((Instant.ofMoment t).expand? format).map .text :=
  eval_strftime (Instant.parse?_clockText low high) format
    (Instant.moved?_nil (hasDate?_ofMoment low high))

theorem eval_specifier (b : UInt8) :
    (Term.strftime [0x25, b] (literal t)).eval
      = ((Instant.ofMoment t).specifier? b).map .text := by
  rw [← Instant.expand?_specifier]
  exact eval_literal low high [0x25, b]

theorem eval_hour :
    (Term.strftime "%H" (literal t)).eval = some (.text (Moment.two t.hour)) :=
  eval_specifier low high (Text.byte 'H')

theorem eval_day :
    (Term.strftime "%d" (literal t)).eval = some (.text (Moment.two t.date.day)) :=
  eval_specifier low high (Text.byte 'd')

theorem eval_month :
    (Term.strftime "%m" (literal t)).eval = some (.text (Moment.two t.date.month)) :=
  eval_specifier low high (Text.byte 'm')

theorem eval_weekday :
    (Term.strftime "%w" (literal t)).eval = some (.text (Decimal.ofNat t.weekday)) :=
  eval_specifier low high (Text.byte 'w')

theorem eval_year :
    (Term.strftime "%Y" (literal t)).eval
      = some (.text (Decimal.padLeft 4 (Decimal.ofNat t.date.year.toNat))) :=
  eval_specifier low high (Text.byte 'Y')

/-- The Thursday of a week in the years 1000 to 9999 lies in these years: the first of them
begins on a Wednesday and the last ends on a Friday. -/
theorem thursday_year :
    1000 ≤ (Date.ofDayNumber (Date.thursdayOf t.dayNumber)).year ∧
      (Date.ofDayNumber (Date.thursdayOf t.dayNumber)).year ≤ 9999 := by
  have first : Date.firstOfMonth 1000 1 = -354285 := by decide
  have last : Date.firstOfMonth 10000 1 = 2932897 := by decide
  have low' := (Date.le_year_iff 1000 t.dayNumber).mp low
  have high' := mt (Date.le_year_iff 10000 t.dayNumber).mpr
  rw [first] at low'
  rw [last] at high'
  have above := Date.le_year_iff 1000 (Date.thursdayOf t.dayNumber)
  have below := Date.le_year_iff 10000 (Date.thursdayOf t.dayNumber)
  rw [first] at above
  rw [last] at below
  have high'' : t.dayNumber < 2932897 := by
    by_contra h
    exact high' (by show ¬ 10000 ≤ t.date.year; omega) (by omega)
  rw [Date.thursdayOf] at above below ⊢
  constructor
  · exact above.mpr (by omega)
  · have := mt below.mp (by omega)
    omega

theorem eval_thursday (b : UInt8) :
    (Term.thursday [0x25, b] (literal t)).eval
      = ((⟨Date.thursdayOf t.dayNumber, t.secondOfDay⟩ : Instant).specifier? b).map .text := by
  obtain ⟨first, last⟩ := thursday_year low high
  have dated : (⟨Date.thursdayOf t.dayNumber, t.secondOfDay⟩ : Instant).hasDate? = some true :=
    Instant.hasDate?_eq_true (le_trans (by decide) first) last
  rw [← Instant.expand?_specifier]
  exact eval_strftime (Instant.parse?_clockText low high) [0x25, b]
    (Instant.moved?_thursday (hasDate?_ofMoment low high) dated)

theorem agrees_week : Agrees t ('W', .template
    "printf('%02d', (strftime('%j', \x7bexpr\x7d, 'weekday 0', '-3 days') - 1) / 7 + 1)") := by
  have yearDay : (Term.thursday "%j" (literal t)).eval
      = some (.text (Decimal.padLeft 3
          (Decimal.ofNat (Date.yearDayOf (Date.thursdayOf t.dayNumber) + 1)))) := by
    have counted := (Date.yearDayOf_spec (Date.thursdayOf t.dayNumber)).1
    have number : (⟨Date.thursdayOf t.dayNumber, t.secondOfDay⟩ : Instant).yearDay
        = Date.yearDayOf (Date.thursdayOf t.dayNumber) + 1 := by
      show (Date.thursdayOf t.dayNumber - Date.firstOfMonth _ 1 + 1).toNat = _
      rw [Instant.date, ← counted]
      omega
    rw [← number]
    exact eval_thursday low high (Text.byte 'j')
  refine agrees_template "printf('%02d', (strftime('%j', "
    ", 'weekday 0', '-3 days') - 1) / 7 + 1)" rfl rfl rfl (fun frames => ?_) (eval_week yearDay) rfl
  exact ⟨_, .fixed rfl rfl (fun _ => rfl) rfl,
    .fixed rfl rfl (fun _ => rfl) rfl⟩

/-- The length of the month agrees but in the last month of the calendar, where it is null. -/
theorem agrees_lastOfMonth (utc : t.zone = .utc) : Agrees t ('t', .template
    "strftime('%d', \x7bexpr\x7d, 'start of month', '+1 month', '-1 day')") := by
  have start := Instant.parse?_clockText low high
  have reference : Reference.char? t 't'
      = some (Decimal.ofNat (Date.monthLength t.date.year t.date.month)) := by
    rw [← Reference.daysInMonth_fixed utc]
    rfl
  obtain ⟨value, evaluated, shown⟩ : ∃ value, (Term.call "strftime" (.string "%d" ::
        literal t :: [("start of month" : Text), "+1 month", "-1 day"].map .string)).eval = some value ∧
      value.text? = answer t 't' (Decimal.ofNat (Date.monthLength t.date.year t.date.month)) := by
    by_cases last : t.date.year = 9999 ∧ t.date.month = 12
    · refine ⟨_, eval_strftime_null start "%d"
        (Instant.moved?_beyond (by show 0 ≤ t.date.year; omega) high last), ?_⟩
      rw [answer, if_pos ⟨rfl, last⟩]
      rfl
    · obtain ⟨j, moved, date⟩ := Instant.moved?_lastOfMonth (i := Instant.ofMoment t)
        (by show 0 ≤ t.date.year; omega) high last
      have length := Date.monthLength_bounds t.date.year t.date.month
      have full := Decimal.padLeft_two_of_le (n := Date.monthLength t.date.year t.date.month)
        (by omega) (by omega)
      have written : j.specifier? (Text.byte 'd') = some (Moment.two j.date.day) := rfl
      have day : j.expand? "%d"
          = some (Decimal.ofNat (Date.monthLength t.date.year t.date.month)) := by
        refine ((j.expand?_specifier (Text.byte 'd')).trans written).trans ?_
        rw [date, Moment.two]
        exact congrArg some full
      refine ⟨_, (eval_strftime start "%d" moved).trans (by rw [day]; rfl), ?_⟩
      rw [answer, if_neg fun lost => last lost.2]
      rfl
  refine agrees_template "strftime('%d', " ", 'start of month', '+1 month', '-1 day')" reference
    rfl rfl (fun frames => ?_) evaluated shown
  exact ⟨_, .fixed rfl rfl (fun _ => rfl) rfl,
    .fixed rfl rfl (fun _ => rfl) rfl⟩

theorem agrees_weekYear :
    Agrees t ('o', .template "strftime('%Y', \x7bexpr\x7d, 'weekday 0', '-3 days')") := by
  obtain ⟨first, last⟩ := thursday_year low high
  obtain ⟨year, hy⟩ : ∃ y : Nat, (Date.ofDayNumber (Date.thursdayOf t.dayNumber)).year = y :=
    ⟨_, (Int.toNat_of_nonneg (by omega)).symm⟩
  have written : (⟨Date.thursdayOf t.dayNumber, t.secondOfDay⟩ : Instant).specifier?
      (Text.byte 'Y') = some (Decimal.ofNat year) := by
    show some (Decimal.padLeft 4 (Decimal.ofNat (Date.ofDayNumber _).year.toNat)) = _
    rw [hy, Int.toNat_natCast, Decimal.padLeft_four (by omega) (by omega)]
  have evaluated := eval_thursday low high (Text.byte 'Y')
  rw [written] at evaluated
  have reference : Reference.char? t 'o' = some (Decimal.ofNat year) := by
    rw [← Decimal.ofInt_natCast, ← hy]
    rfl
  refine agrees_template "strftime('%Y', " ", 'weekday 0', '-3 days')" reference rfl rfl
    (fun frames => ?_) evaluated rfl
  exact ⟨_, .fixed rfl rfl (fun _ => rfl) rfl,
    .fixed rfl rfl (fun _ => rfl) rfl⟩

theorem agrees_shortYear :
    Agrees t ('y', .template "substr(strftime('%Y', \x7bexpr\x7d), 3, 2)") := by
  obtain ⟨year, hy⟩ : ∃ y : Nat, t.date.year = y := ⟨_, (Int.toNat_of_nonneg (by omega)).symm⟩
  have evaluated := eval_year low high
  rw [hy, Int.toNat_natCast, Decimal.padLeft_four (by omega) (by omega),
    Decimal.ofNat_four (by omega) (by omega)] at evaluated
  have tens : year / 10 % 10 = year % 100 / 10 := by omega
  have ones : year % 10 = year % 100 % 10 := by omega
  have digits : (Term.call "substr" [.strftime "%Y" (literal t), .number 3, .number 2]).eval
      = some (.text (Moment.two (year % 100))) := by
    rw [Moment.two, Decimal.padLeft_two (by omega), ← tens, ← ones, Term.eval, Term.evalAll,
      evaluated]
    show applyFunction "substr" [.text _, .integer 3, .integer 2] = _
    rw [applyFunction, if_pos]
    · rfl
    · refine ⟨rfl, ?_, by decide, by decide⟩
      have ascii : ∀ {n : Nat}, n < 10 → decide (Decimal.digit n < 0x80) = true := by
        intro n h
        interval_cases n <;> rfl
      simp only [isAscii, List.all_cons, List.all_nil, Bool.and_true, Bool.and_eq_true]
      exact ⟨ascii (by omega), ascii (by omega), ascii (by omega), ascii (by omega)⟩
  have reference : Reference.char? t 'y' = some (Moment.two (year % 100)) := by
    have remainder : (year : Int).tmod 100 = ((year % 100 : Nat) : Int) := rfl
    show some (Decimal.padLeft 2 (Decimal.ofInt (t.date.year.tmod 100))) = _
    rw [hy, remainder]
    rfl
  refine agrees_template "substr(strftime('%Y', " "), 3, 2)" reference rfl rfl
    (fun frames => ?_) digits rfl
  exact ⟨_, .fixed rfl rfl (fun _ => rfl) rfl,
    .fixed rfl rfl (fun _ => rfl) rfl⟩

theorem agrees_plainHour :
    Agrees t ('G', .template "cast(strftime('%H', \x7bexpr\x7d) as integer)") := by
  have evaluated : (Term.cast (.strftime "%H" (literal t))).eval = some (.integer t.hour) := by
    rw [Term.eval, eval_hour low high]
    show (Decimal.toInt? (Decimal.padLeft 2 (Decimal.ofNat t.hour))).bind _ = _
    rw [Decimal.toInt?_padLeft_ofNat]
    rfl
  refine agrees_template "cast(strftime('%H', " ") as integer)" rfl rfl rfl
    (fun frames => ?_) evaluated rfl
  exact ⟨_, .fixed rfl rfl (fun _ => rfl) rfl,
    .fixed rfl rfl (fun _ => rfl) rfl⟩

theorem agrees_epoch (utc : t.zone = .utc) :
    Agrees t ('U', .template "strftime('%s', \x7bexpr\x7d)") := by
  have offset : t.offset = 0 := by
    rw [Moment.offset, utc, Zone.utc, Zone.offsetAt_fixed]
  have seconds : t.dayNumber * 86400 + (t.secondOfDay : Int) = t.unix := by
    rw [Moment.dayNumber, Moment.secondOfDay, Moment.clock, offset]
    omega
  have evaluated : (Term.strftime "%s" (literal t)).eval
      = some (.text (Decimal.ofInt (t.dayNumber * 86400 + (t.secondOfDay : Int)))) :=
    eval_specifier low high (Text.byte 's')
  rw [seconds] at evaluated
  refine agrees_template "strftime('%s', " ")" rfl rfl rfl (fun frames => ?_) evaluated rfl
  exact ⟨_, .fixed rfl rfl (fun _ => rfl) rfl,
    .fixed rfl rfl (fun _ => rfl) rfl⟩

theorem agrees_year : Agrees t ('Y', .native "%Y") := by
  obtain ⟨year, hy⟩ : ∃ y : Nat, t.date.year = y := ⟨_, (Int.toNat_of_nonneg (by omega)).symm⟩
  have reference : Reference.char? t 'Y' = some (Decimal.padLeft 4 (Decimal.ofNat year)) := by
    show some (Decimal.padLeft 4 (Decimal.ofInt t.date.year)) = _
    rw [hy]
    rfl
  refine agrees_native (by decide) (Text.byte 'Y') reference rfl ?_
  show some (Decimal.padLeft 4 (Decimal.ofNat t.date.year.toNat)) = _
  rw [hy, Int.toNat_natCast]

/-- **Every entry of SQLite's table agrees with the reference**, at every moment of a UTC clock
in the years 1000 to 9999. -/
theorem agrees_table (utc : t.zone = .utc) : ∀ entry ∈ Capability.sqlite, Agrees t entry := by
  have hour := t.hour_lt
  have evaluated := eval_hour low high
  have weekday := Date.weekdayOf_lt t.dayNumber
  obtain ⟨firstMonth, lastMonth, firstDay, -⟩ := t.valid_date
  obtain ⟨twelve, heval, htext⟩ := Option.bind_eq_some_iff.mp (eval_hourOfTwelve hour evaluated)
  simp only [Capability.sqlite, List.forall_mem_cons]
  refine ⟨agrees_native (by decide) (Text.byte 'd') rfl rfl rfl, ?_, ?_, ?_,
    agrees_native (by decide) (Text.byte 'w') rfl rfl rfl, agrees_week low high, ?_,
    agrees_native (by decide) (Text.byte 'm') rfl rfl rfl, ?_, ?_,
    agrees_lastOfMonth low high utc, agrees_weekYear low high, agrees_year low high,
    agrees_shortYear low high, ?_, ?_, ?_, agrees_plainHour low high, ?_,
    agrees_native (by decide) (Text.byte 'H') rfl rfl rfl,
    agrees_native (by decide) (Text.byte 'M') rfl rfl rfl,
    agrees_native (by decide) (Text.byte 'S') rfl rfl rfl, agrees_epoch low high utc,
    fun entry mem => absurd mem List.not_mem_nil⟩
  · exact agrees_named rfl (eval_weekday low high) (lookup_weekdaysShort weekday) rfl
  · exact agrees_synthesis rfl rfl
      (eval_unpadded firstDay t.day_lt (eval_day low high)) rfl
  · exact agrees_named rfl (eval_weekday low high) (lookup_weekdaysLong weekday) rfl
  · exact agrees_named rfl (eval_month low high) (lookup_monthsLong firstMonth lastMonth) rfl
  · exact agrees_named rfl (eval_month low high) (lookup_monthsShort firstMonth lastMonth) rfl
  · exact agrees_synthesis rfl rfl
      (eval_unpadded firstMonth t.month_lt (eval_month low high)) rfl
  · exact agrees_synthesis rfl rfl (eval_meridiem hour evaluated "am" "pm") rfl
  · exact agrees_synthesis rfl rfl (eval_meridiem hour evaluated "AM" "PM") rfl
  · exact agrees_synthesis rfl rfl heval htext
  · exact agrees_synthesis rfl rfl (eval_paddedHourOfTwelve hour evaluated) rfl

end

end DatePattern.Sqlite
