import DatePattern.Proofs.Plan.Context
import DatePattern.Proofs.Plan.Sealed

/-!
# Null-safe inequality

Whether two operands differ, null counting as a value, is written in four ways. Here a condition
is read from its text, word by word, and has a truth value of three under a valuation of its
operands:

- `Truth`: the three truth values and their connectives;
- `Condition.truth`: comparisons, tests for null and their combinations;
- `Condition.read`: a condition from its text. `or` binds weaker than `and`, `and` weaker than
  `not`, and `not` weaker than a comparison. What is compared are operands, and a valuation
  gives a value or null for the words of each.

MySQL, SQLite and PostgreSQL have a comparison that is never unknown. For SQL Server the
condition is put together from others, and it is unknown where both operands are null
(`distinct_truth`).
-/

namespace DatePattern

/-! ## Three truth values -/

/-- The truth values of SQL. -/
inductive Truth where
  | holds
  | fails
  | unknown
  deriving DecidableEq, Repr

namespace Truth

def ofBool : Bool → Truth
  | true => .holds
  | false => .fails

def not : Truth → Truth
  | .holds => .fails
  | .fails => .holds
  | .unknown => .unknown

def and : Truth → Truth → Truth
  | .fails, _ => .fails
  | _, .fails => .fails
  | .holds, .holds => .holds
  | _, _ => .unknown

def or : Truth → Truth → Truth
  | .holds, _ => .holds
  | _, .holds => .holds
  | .fails, .fails => .fails
  | _, _ => .unknown

theorem not_ofBool (a : Bool) : (ofBool a).not = ofBool (!a) := by cases a <;> rfl

theorem and_ofBool (a b : Bool) : (ofBool a).and (ofBool b) = ofBool (a && b) := by
  cases a <;> cases b <;> rfl

theorem or_ofBool (a b : Bool) : (ofBool a).or (ofBool b) = ofBool (a || b) := by
  cases a <;> cases b <;> rfl

end Truth

/-- The comparisons of two values, either of which may be null. -/
inductive Comparison where
  /-- Inequality of values, unknown where one is null. -/
  | unequal
  /-- Equality, where null equals null only. -/
  | same
  /-- The negation of `same`. -/
  | distinct
  deriving DecidableEq, Repr

def Comparison.truth {V : Type} [BEq V] : Comparison → Option V → Option V → Truth
  | .unequal, some x, some y => .ofBool (x != y)
  | .unequal, _, _ => .unknown
  | .same, x, y => .ofBool (x == y)
  | .distinct, x, y => .ofBool (x != y)

/-- A condition on operands, each given by its words. -/
inductive Condition where
  | compare (op : Comparison) (left right : List Text)
  | isNull (operand : List Text)
  | not (c : Condition)
  | and (c d : Condition)
  | or (c d : Condition)
  deriving DecidableEq, Repr

namespace Condition

/-- The truth of a condition when operands have values or are null. -/
def truth {V : Type} [BEq V] (value : List Text → Option V) : Condition → Truth
  | .compare op left right => op.truth (value left) (value right)
  | .isNull operand => .ofBool (value operand).isNone
  | .not c => (c.truth value).not
  | .and c d => (c.truth value).and (d.truth value)
  | .or c d => (c.truth value).or (d.truth value)

/-! ## Reading a condition -/

/-- The comparisons of an engine, by the words that stand between their operands. -/
def comparisons : Engine → List (List Text × Comparison)
  | .mysql => [(["!="], .unequal), (["<>"], .unequal), (["<=>"], .same)]
  | .sqlite => [(["!="], .unequal), (["<>"], .unequal), (["is", "not"], .distinct)]
  | .postgres => [(["!="], .unequal), (["<>"], .unequal), (["is", "distinct", "from"], .distinct)]
  | .sqlserver => [(["!="], .unequal), (["<>"], .unequal)]

/-- The words that test for null, or for its opposite. -/
def testPhrase (null : Bool) : List Text := if null then ["is", "null"] else ["is", "not", "null"]

/-- A test for null, or for its opposite. -/
def test (null : Bool) (operand : List Text) : Condition :=
  if null then .isNull operand else .not (.isNull operand)

/-- The tests of an operand, by the words behind it. -/
def tests (operand : List Text) : List (List Text × Condition) :=
  [(testPhrase true, test true operand), (testPhrase false, test false operand)]

/-- Reads a comparison of two operands or a test of one. -/
def readSimple (engine : Engine) (words : List Text) : Option Condition :=
  let isOperand := Scan.isOperandWord engine.lexicon
  let left := words.takeWhile isOperand
  let behind := words.dropWhile isOperand
  let phrase := behind.takeWhile fun word => !isOperand word
  let right := behind.dropWhile fun word => !isOperand word
  if left.isEmpty || !right.all isOperand then none
  else if right.isEmpty then (tests left).lookup phrase
  else ((comparisons engine).lookup phrase).map fun op => .compare op left right

/-- Reads a condition from its words, to a depth. -/
def readWords (engine : Engine) : (depth : Nat) → List Text → Option Condition
  | 0, _ => none
  | depth + 1, words =>
    if words.contains ("or" : Text) then
      (readWords engine depth (Scan.before "or" words)).bind fun c =>
        (readWords engine depth (Scan.behind "or" words)).map c.or
    else if words.contains ("and" : Text) then
      (readWords engine depth (Scan.before "and" words)).bind fun c =>
        (readWords engine depth (Scan.behind "and" words)).map c.and
    else if words.head? = some ("not" : Text) then (readWords engine depth words.tail).map .not
    else if words.length = 1 then
      ((words.head?.bind Scan.unparen).bind (Scan.words engine.lexicon)).bind
        (readWords engine depth)
    else readSimple engine words

/-- Reads a condition. Its length bounds its depth. -/
def read (engine : Engine) (text : Text) : Option Condition :=
  (Scan.words engine.lexicon text).bind (readWords engine text.length)

/-! ## What is read -/

section

variable {engine : Engine} {depth : Nat} {left right ws phrase : List Text} {c d : Condition}

/-- A simple condition is an operand, a phrase and perhaps another operand. -/
theorem readSimple_eq (hl : Scan.AreOperand engine.lexicon left) (nonempty : phrase ≠ [])
    (between : phrase.all (fun word => !Scan.isOperandWord engine.lexicon word) = true)
    (hr : right.all (Scan.isOperandWord engine.lexicon) = true) :
    readSimple engine (left ++ (phrase ++ right)) =
      if right.isEmpty then (tests left).lookup phrase
      else ((comparisons engine).lookup phrase).map fun op => .compare op left right := by
  have outer := Text.span_append hl.2 (phrase ++ right) (by
    intro word first
    rw [List.head?_append_of_ne_nil _ nonempty] at first
    simpa using List.all_eq_true.mp between word (List.mem_of_mem_head? first))
  have inner := Text.span_append between right (by
    intro word first
    simpa using List.all_eq_true.mp hr word (List.mem_of_mem_head? first))
  rw [readSimple]
  simp only [outer, inner, hr, Bool.not_true, Bool.or_false, List.isEmpty_iff, hl.1, if_false]

theorem readWords_or (free : ("or" : Text) ∉ left) (hl : readWords engine depth left = some c)
    (hr : readWords engine depth right = some d) :
    readWords engine (depth + 1) (left ++ ("or" : Text) :: right) = some (.or c d) := by
  have found : (left ++ ("or" : Text) :: right).contains ("or" : Text) = true := by simp
  have span := Scan.span_word free right
  rw [readWords, if_pos found, span.1, span.2, hl, hr]
  rfl

theorem readWords_and (or : ("or" : Text) ∉ left ++ ("and" : Text) :: right)
    (free : ("and" : Text) ∉ left) (hl : readWords engine depth left = some c)
    (hr : readWords engine depth right = some d) :
    readWords engine (depth + 1) (left ++ ("and" : Text) :: right) = some (.and c d) := by
  have found : (left ++ ("and" : Text) :: right).contains ("and" : Text) = true := by simp
  have span := Scan.span_word free right
  rw [readWords, if_neg (mt List.contains_iff_mem.mp or), if_pos found, span.1, span.2, hl, hr]
  rfl

/-- Without `or` and `and`, a condition is a negation, or in parentheses, or simple. -/
theorem readWords_unjoined (or : ("or" : Text) ∉ ws) (and : ("and" : Text) ∉ ws) :
    readWords engine (depth + 1) ws =
      if ws.head? = some ("not" : Text) then (readWords engine depth ws.tail).map .not
      else if ws.length = 1 then
        ((ws.head?.bind Scan.unparen).bind (Scan.words engine.lexicon)).bind
          (readWords engine depth)
      else readSimple engine ws := by
  rw [readWords, if_neg (mt List.contains_iff_mem.mp or), if_neg (mt List.contains_iff_mem.mp and)]

theorem readWords_not (or : ("or" : Text) ∉ ("not" : Text) :: ws)
    (and : ("and" : Text) ∉ ("not" : Text) :: ws) (h : readWords engine depth ws = some c) :
    readWords engine (depth + 1) (("not" : Text) :: ws) = some (.not c) := by
  rw [readWords_unjoined or and, List.head?_cons, if_pos rfl, List.tail_cons, h]
  rfl

theorem readWords_parens {text : Text} (found : Scan.words engine.lexicon text = some ws)
    (h : readWords engine depth ws = some c) :
    readWords engine (depth + 1) ["(" ++ text ++ ")"] = some c := by
  have or : ("or" : Text) ∉ ["(" ++ text ++ ")"] := by
    rw [List.mem_singleton]
    exact nofun
  have and : ("and" : Text) ∉ ["(" ++ text ++ ")"] := by
    rw [List.mem_singleton]
    exact nofun
  have not : ["(" ++ text ++ ")"].head? ≠ some ("not" : Text) := by
    rw [List.head?_cons]
    exact nofun
  rw [readWords_unjoined or and, if_neg not, if_pos List.length_singleton, List.head?_cons,
    Option.bind_some, Scan.unparen_parens, Option.bind_some, found, Option.bind_some, h]

/-- A reserved word stands in a simple condition only between the operands. -/
theorem not_mem_simple (hl : left.all (Scan.isOperandWord engine.lexicon) = true)
    (hr : right.all (Scan.isOperandWord engine.lexicon) = true) {word : Text}
    (taken : Scan.isReserved word = true) (other : word ∉ phrase) :
    word ∉ left ++ (phrase ++ right) := by
  rw [List.mem_append, List.mem_append, not_or, not_or]
  exact ⟨Scan.not_mem_of_isReserved hl taken, other, Scan.not_mem_of_isReserved hr taken⟩

theorem readWords_simple (hl : Scan.AreOperand engine.lexicon left) (nonempty : phrase ≠ [])
    (or : ("or" : Text) ∉ phrase) (and : ("and" : Text) ∉ phrase)
    (between : phrase.all (fun word => !Scan.isOperandWord engine.lexicon word) = true)
    (hr : right.all (Scan.isOperandWord engine.lexicon) = true) :
    readWords engine (depth + 1) (left ++ (phrase ++ right)) =
      if right.isEmpty then (tests left).lookup phrase
      else ((comparisons engine).lookup phrase).map fun op => .compare op left right := by
  have or := not_mem_simple hl.2 hr (by decide) or
  have and := not_mem_simple hl.2 hr (by decide) and
  have not : (left ++ (phrase ++ right)).head? ≠ some ("not" : Text) := by
    rw [List.head?_append_of_ne_nil _ hl.1]
    intro first
    exact Scan.not_mem_of_isReserved hl.2 (by decide) (List.mem_of_mem_head? first)
  have several : (left ++ (phrase ++ right)).length ≠ 1 := by
    have some := List.length_pos_iff.mpr hl.1
    have more := List.length_pos_iff.mpr nonempty
    simp only [List.length_append]
    omega
  rw [readWords_unjoined or and, if_neg not, if_neg several,
    readSimple_eq hl nonempty between hr]

/-- The words between two operands, and what they compare. -/
theorem comparisons_phrase (engine : Engine) : ∀ entry ∈ comparisons engine,
    (comparisons engine).lookup entry.1 = some entry.2 ∧ entry.1 ≠ [] ∧
      ("or" : Text) ∉ entry.1 ∧ ("and" : Text) ∉ entry.1 ∧
      entry.1.all (fun word => !Scan.isOperandWord engine.lexicon word) = true := by
  cases engine <;> decide

theorem readWords_compare (hl : Scan.AreOperand engine.lexicon left)
    (hr : Scan.AreOperand engine.lexicon right) {op : Comparison}
    (listed : (phrase, op) ∈ comparisons engine) :
    readWords engine (depth + 1) (left ++ (phrase ++ right)) = some (.compare op left right) := by
  obtain ⟨found, nonempty, or, and, between⟩ := comparisons_phrase engine _ listed
  have operand : right.isEmpty ≠ true := by simpa using hr.1
  rw [readWords_simple hl nonempty or and between hr.2, if_neg operand, found]
  rfl

/-- A condition in parentheses, of words that are read at every depth from `k` on. -/
theorem read_parens {k : Nat} {text : Text} (found : Scan.words engine.lexicon text = some ws)
    (long : k ≤ text.length + 1) (h : ∀ depth, readWords engine (depth + k) ws = some c) :
    read engine ("(" ++ text ++ ")") = some c := by
  have whole := Scan.words_parens (Scan.sealed_of_words found)
  have length : ("(" ++ text ++ ")" : Text).length = (text.length + 1 - k) + k + 1 := by
    simp only [List.length_append]
    show 1 + text.length + 1 = _
    omega
  rw [read, whole, Option.bind_some, length]
  exact readWords_parens found (h _)

/-! ## The four conditions -/

theorem readWords_test (hl : Scan.AreOperand engine.lexicon left) (null : Bool) :
    readWords engine (depth + 1) (left ++ testPhrase null) = some (test null left) := by
  have read : readWords engine (depth + 1) (left ++ (testPhrase null ++ []))
      = (tests left).lookup (testPhrase null) := by
    cases null <;> exact readWords_simple hl (by decide) (by decide) (by decide)
      (by cases engine <;> decide) rfl
  rw [List.append_nil] at read
  rw [read]
  cases null <;> rfl

/-- Tests of two operands, joined by `and`. -/
theorem readWords_tests (hl : Scan.AreOperand engine.lexicon left)
    (hr : Scan.AreOperand engine.lexicon right) (a b : Bool) :
    readWords engine (depth + 2) (left ++ testPhrase a ++ ("and" : Text) :: (right ++ testPhrase b))
      = some (.and (test a left) (test b right)) := by
  have reserved : ∀ {word : Text}, Scan.isReserved word = true → word ∉ left ∧ word ∉ right :=
    fun taken => ⟨Scan.not_mem_of_isReserved hl.2 taken, Scan.not_mem_of_isReserved hr.2 taken⟩
  refine readWords_and ?_ ?_ (readWords_test hl a) (readWords_test hr b)
  · obtain ⟨fl, fr⟩ := reserved (by decide : Scan.isReserved "or" = true)
    simp only [List.mem_append, List.mem_cons, fl, fr, false_or]
    cases a <;> cases b <;> decide
  · obtain ⟨fl, -⟩ := reserved (by decide : Scan.isReserved "and" = true)
    simp only [List.mem_append, fl, false_or]
    cases a <;> decide

end

/-- The condition that is written for each engine. -/
def distinct (engine : Engine) (left right : List Text) : Condition :=
  match engine with
  | .mysql => .not (.compare .same left right)
  | .sqlite | .postgres => .compare .distinct left right
  | .sqlserver =>
    .or (.compare .unequal left right)
      (.or (.and (test false left) (test true right)) (.and (test true left) (test false right)))

section

variable {engine : Engine} {l r : Text} {left right : List Text}

theorem read_compare (hl : Scan.words engine.lexicon l = some left)
    (hr : Scan.words engine.lexicon r = some right) (opl : Scan.AreOperand engine.lexicon left)
    (opr : Scan.AreOperand engine.lexicon right) {phrase : Text} {between : List Text}
    {op : Comparison} (found : Scan.words engine.lexicon phrase = some between)
    (listed : (between, op) ∈ comparisons engine) :
    read engine ("(" ++ (l ++ " " ++ (phrase ++ " " ++ r)) ++ ")")
      = some (.compare op left right) := by
  have all := Scan.words_append hl (Scan.words_append found hr)
  exact read_parens all (Nat.le_add_left 1 _) fun depth => readWords_compare opl opr listed

/-- The text of a test. -/
def testText (null : Bool) : Text := if null then "is null" else "is not null"

/-- The text of two tests in parentheses. -/
def testsText (a b : Bool) (l r : Text) : Text :=
  "(" ++ (l ++ " " ++ (testText a ++ " " ++ ("and" ++ " " ++ (r ++ " " ++ testText b)))) ++ ")"

/-- Two tests in parentheses are one word, which is read as their conjunction. -/
theorem read_testsText (hl : Scan.words engine.lexicon l = some left)
    (hr : Scan.words engine.lexicon r = some right) (opl : Scan.AreOperand engine.lexicon left)
    (opr : Scan.AreOperand engine.lexicon right) (a b : Bool) :
    Scan.words engine.lexicon (testsText a b l r) = some [testsText a b l r] ∧
      ∀ depth, readWords engine (depth + 3) [testsText a b l r]
        = some (.and (test a left) (test b right)) := by
  have tested : ∀ null, Scan.words engine.lexicon (testText null) = some (testPhrase null) := by
    intro null
    cases engine <;> cases null <;> rfl
  have and : Scan.words engine.lexicon "and" = some [("and" : Text)] := by cases engine <;> rfl
  have inside := Scan.words_append hl (Scan.words_append (tested a)
    (Scan.words_append and (Scan.words_append hr (tested b))))
  refine ⟨Scan.words_parens (Scan.sealed_of_words inside), fun depth => ?_⟩
  refine readWords_parens inside ?_
  rw [← List.append_assoc]
  exact readWords_tests opl opr a b

theorem read_distinct_sqlserver (hl : Scan.words Engine.sqlserver.lexicon l = some left)
    (hr : Scan.words Engine.sqlserver.lexicon r = some right)
    (opl : Scan.AreOperand Engine.sqlserver.lexicon left)
    (opr : Scan.AreOperand Engine.sqlserver.lexicon right) :
    read .sqlserver (Sql.distinct Engine.sqlserver.kind l r)
      = some (distinct .sqlserver left right) := by
  obtain ⟨first, read_first⟩ := read_testsText hl hr opl opr false true
  obtain ⟨second, read_second⟩ := read_testsText hl hr opl opr true false
  have text : Sql.distinct Engine.sqlserver.kind l r
      = "(" ++ (l ++ " " ++ ("!=" ++ " " ++ (r ++ " " ++ ("or" ++ " " ++ (testsText false true l r
        ++ " " ++ ("or" ++ " " ++ testsText true false l r)))))) ++ ")" := by
    show ("(" ++ l ++ " != " ++ r ++ " or (" ++ l ++ " is not null and " ++ r ++ " is null) or ("
      ++ l ++ " is null and " ++ r ++ " is not null))" : Text) = _
    simp only [testsText, List.append_assoc]
    rfl
  have ne : Scan.words Engine.sqlserver.lexicon "!=" = some [("!=" : Text)] := rfl
  have or : Scan.words Engine.sqlserver.lexicon "or" = some [("or" : Text)] := rfl
  have all := Scan.words_append hl (Scan.words_append ne (Scan.words_append hr
    (Scan.words_append or (Scan.words_append first (Scan.words_append or second)))))
  rw [text]
  refine read_parens (k := 5) all ?_ fun depth => ?_
  · have blank : (" " : Text).length = 1 := rfl
    simp only [List.length_append, blank]
    omega
  -- the first `or` stands behind the comparison, the second between the two conjunctions
  have other : ("or" : Text) ∉ [testsText false true l r] := by
    rw [List.mem_singleton, testsText]
    exact nofun
  have either := readWords_or other (read_first depth) (read_second depth)
  have compared : readWords .sqlserver (depth + 4) (left ++ ([("!=" : Text)] ++ right))
      = some (.compare .unequal left right) := readWords_compare opl opr (by decide)
  have free : ("or" : Text) ∉ left ++ ([("!=" : Text)] ++ right) :=
    not_mem_simple opl.2 opr.2 (by decide) (by decide)
  have whole := readWords_or free compared either
  rw [List.append_assoc, List.append_assoc] at whole
  exact whole

/-- What is written for an engine is read as its condition. -/
theorem read_distinct (hl : Scan.words engine.lexicon l = some left)
    (hr : Scan.words engine.lexicon r = some right) (opl : Scan.AreOperand engine.lexicon left)
    (opr : Scan.AreOperand engine.lexicon right) :
    read engine (Sql.distinct engine.kind l r) = some (distinct engine left right) := by
  cases engine with
  | mysql =>
    have text : Sql.distinct Engine.mysql.kind l r
        = "(" ++ ("not" ++ " " ++ (l ++ " " ++ ("<=>" ++ " " ++ r))) ++ ")" := by
      show ("(not " ++ l ++ " <=> " ++ r ++ ")" : Text) = _
      simp only [List.append_assoc]
      rfl
    have not : Scan.words Engine.mysql.lexicon "not" = some [("not" : Text)] := rfl
    have same : Scan.words Engine.mysql.lexicon "<=>" = some [("<=>" : Text)] := rfl
    have all := Scan.words_append not (Scan.words_append hl (Scan.words_append same hr))
    rw [text]
    have free : ∀ {word : Text}, Scan.isReserved word = true → word ≠ "not" → word ≠ "<=>" →
        word ∉ ("not" : Text) :: (left ++ ([("<=>" : Text)] ++ right)) := by
      intro word taken other other'
      rw [List.mem_cons, not_or]
      exact ⟨other, not_mem_simple opl.2 opr.2 taken (by simpa using other')⟩
    refine read_parens all (Nat.le_add_left 2 _) fun depth => readWords_not ?_ ?_ ?_
    · exact free (by decide) (by decide) (by decide)
    · exact free (by decide) (by decide) (by decide)
    · exact readWords_compare opl opr (by decide)
  | sqlite =>
    have text : Sql.distinct Engine.sqlite.kind l r
        = "(" ++ (l ++ " " ++ ("is not" ++ " " ++ r)) ++ ")" := by
      show ("(" ++ l ++ " is not " ++ r ++ ")" : Text) = _
      simp only [List.append_assoc]
      rfl
    rw [text]
    exact read_compare hl hr opl opr rfl (by decide)
  | postgres =>
    have text : Sql.distinct Engine.postgres.kind l r
        = "(" ++ (l ++ " " ++ ("is distinct from" ++ " " ++ r)) ++ ")" := by
      show ("(" ++ l ++ " is distinct from " ++ r ++ ")" : Text) = _
      simp only [List.append_assoc]
      rfl
    rw [text]
    exact read_compare hl hr opl opr rfl (by decide)
  | sqlserver => exact read_distinct_sqlserver hl hr opl opr

end

/-! ## Their truth -/

/-- Whether two values differ, null counting as a value: one is null and the other not, or both
are values and unequal. -/
def differ {V : Type} [BEq V] : Option V → Option V → Bool
  | none, none => false
  | some x, some y => x != y
  | _, _ => true

theorem differ_eq_bne {V : Type} [BEq V] (x y : Option V) : differ x y = (x != y) := by
  cases x <;> cases y <;> rfl

theorem truth_distinct {V : Type} [BEq V] (engine : Engine) (value : List Text → Option V)
    (left right : List Text) :
    (distinct engine left right).truth value =
      if engine = .sqlserver ∧ value left = none ∧ value right = none then .unknown
      else .ofBool (differ (value left) (value right)) := by
  cases engine with
  | mysql =>
    rw [if_neg (by rintro ⟨⟨⟩, -⟩), differ_eq_bne]
    exact Truth.not_ofBool _
  | sqlite | postgres =>
    rw [if_neg (by rintro ⟨⟨⟩, -⟩), differ_eq_bne]
    rfl
  | sqlserver =>
    -- the two conjunctions are never unknown, so only the comparison can be
    have rest : (truth value (.or (.and (test false left) (test true right))
        (.and (test true left) (test false right))))
        = .ofBool ((value left).isSome && (value right).isNone
          || (value left).isNone && (value right).isSome) := by
      simp [truth, test, Truth.not_ofBool, Truth.and_ofBool, Truth.or_ofBool]
    show Truth.or (Comparison.truth .unequal (value left) (value right)) _ = _
    rw [rest]
    cases value left with
    | none => cases value right <;> rfl
    | some x =>
      cases value right with
      | none => rfl
      | some y =>
        show Truth.or (.ofBool (x != y)) (.ofBool false) = .ofBool (x != y)
        rw [Truth.or_ofBool, Bool.or_false]

end Condition

/-- **Null-safe inequality, except on SQL Server.** Every expression is an operand, if the SQL
that is taken over into it is. For operands `l` and `r` the condition that they are distinct is
read from its SQL, and whatever values the operands have, or whether they are null, it holds
where exactly one is null or both are values and unequal, and it fails otherwise; but on SQL
Server it is unknown where both are null. -/
theorem distinct_truth (engine : Engine) :
    (∀ e : SqlExpr, e.Admitted (Scan.IsOperand engine) →
      Scan.IsOperand engine (e.render engine.grammar)) ∧
    ∀ l r : SqlExpr, Scan.IsOperand engine (l.render engine.grammar) →
      Scan.IsOperand engine (r.render engine.grammar) →
      ∃ sql condition left right, (Expr.distinct l r).sql engine.grammar = .ok sql ∧
        Condition.read engine sql = some condition ∧
        Scan.words engine.lexicon (l.render engine.grammar) = some left ∧
        Scan.words engine.lexicon (r.render engine.grammar) = some right ∧
        ∀ (V : Type) [BEq V] (value : List Text → Option V), condition.truth value =
          if engine = .sqlserver ∧ value left = none ∧ value right = none then .unknown
          else .ofBool (Condition.differ (value left) (value right)) := by
  refine ⟨Expr.operand_render, fun l r hl hr => ?_⟩
  obtain ⟨left, found_left, opl⟩ := hl.reads
  obtain ⟨right, found_right, opr⟩ := hr.reads
  have valid : engine.grammar.kind.isValid = true := by cases engine <;> rfl
  refine ⟨_, Condition.distinct engine left right, left, right, Expr.sql_eq valid _, ?_,
    found_left, found_right, ?_⟩
  · have kind : engine.grammar.kind = engine.kind := by cases engine <;> rfl
    rw [Expr.render, Expr.text, kind]
    exact Condition.read_distinct found_left found_right opl opr
  · exact fun V _ value => Condition.truth_distinct engine value left right

/-- A date under a format and a timestamp, both null, with reserved words in the user's text. -/
theorem distinct_truth_dates :
    let l : SqlExpr := .formatted (.column "a or b") ⟨"D, d", by decide +kernel⟩
    let r : SqlExpr := .timestamp ⟨0, 0, .utc⟩
    ∀ engine : Engine, Scan.IsOperand engine (l.render engine.grammar) ∧
      Scan.IsOperand engine (r.render engine.grammar) ∧
      ∃ sql condition, (Expr.distinct l r).sql engine.grammar = .ok sql ∧
        Condition.read engine sql = some condition ∧
        condition.truth (fun _ => (none : Option Nat))
          = if engine = .sqlserver then .unknown else .fails := by
  intro l r engine
  have hl := (distinct_truth engine).1 l trivial
  have hr := (distinct_truth engine).1 r trivial
  obtain ⟨sql, condition, left, right, rendered, read, -, -, truth⟩ :=
    (distinct_truth engine).2 l r hl hr
  refine ⟨hl, hr, sql, condition, rendered, read, ?_⟩
  rw [truth]
  cases engine <;> rfl

/-- Two columns of SQL Server that are both null are neither distinct nor not distinct. -/
theorem distinct_unknown_of_nulls :
    let sql : Text := "([a] != [b] or ([a] is not null and [b] is null)"
      ++ " or ([a] is null and [b] is not null))"
    (Expr.distinct (.column "a") (.column "b") : SqlExpr).sql Engine.sqlserver.grammar = .ok sql ∧
      (Condition.read .sqlserver sql).map (Condition.truth fun _ => (none : Option Nat))
        = some .unknown := by
  intro sql
  refine ⟨(Expr.sql_eq rfl _).trans (congrArg Except.ok ?_), ?_⟩ <;> decide

end DatePattern
