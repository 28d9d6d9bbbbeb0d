import DatePattern.Proofs.Dialect.ReadBack
import DatePattern.Proofs.Number.Decimal
import DatePattern.Proofs.Sql.Words
import DatePattern.Sql.Expr

/-!
# Expressions keep their text in quotes

The SQL of an expression is put together from quoted user text and from fixed text that opens
and closes its own parentheses. Scanned, it comes out where it went in, and it is an operand
for whatever is written around it:

- `Expr.Admitted`: the expressions for which this holds. Column names, string values and the
  characters to trim are arbitrary bytes; function names have letters, digits and underscores
  only; SQL that is taken over as it stands has to be trusted;
- `Scan.solid_between`, `solid_open`, `solid_close`, `solid_operator`: the fixed text;
- `Expr.shape_text`: the SQL of an admitted expression. The induction follows the expression
  and its lists, branches and default;
- `Expr.passes_text`, `Expr.operand_text`: what follows for the scan and for reading.
-/

namespace DatePattern

/-! ## The fixed text -/

namespace Scan

theorem detaches_of_inert (engine : Engine) {b : UInt8} (h : isInert b = true) (text : Text) :
    engine.lexicon.detaches (b :: text) = true := by
  simp only [isInert, List.contains_cons, List.contains_nil, Bool.or_false, Bool.not_eq_true',
    Bool.or_eq_false_iff, beq_eq_false_iff_ne] at h
  cases engine <;> simp [Lexicon.detaches, Engine.lexicon, h]

/-- Words and blanks between two expressions, in parentheses. -/
theorem solid_between (engine : Engine) {text : Text} (nonempty : text ≠ [])
    (h : text.all isInert = true) (depth : Nat) :
    Solid engine.lexicon .settled (depth + 1) text .fresh (depth + 1) := by
  obtain ⟨s, ran, rfl⟩ := (moves_inert engine h depth).solid ⟨.outside, depth + 1⟩ rfl
  cases text with
  | nil => exact absurd rfl nonempty
  | cons b rest =>
    rw [List.all_cons, Bool.and_eq_true] at h
    exact .ofFold_detached (detaches_of_inert engine h.1 rest) ran

theorem solid_open (engine : Engine) (depth : Nat) :
    Solid engine.lexicon .fresh depth "(" .fresh (depth + 1) := by
  cases engine <;> exact Triple.ofFold rfl

theorem solid_close (engine : Engine) (depth : Nat) :
    Solid engine.lexicon .settled (depth + 1) ")" .fresh depth := by
  cases engine <;> exact .ofFold_detached rfl rfl

end Scan

/-- Whether an operator is one of the built-in comparisons and arithmetic. -/
def Operator.isBuiltin : Operator → Bool
  | .custom _ => false
  | _ => true

theorem Scan.solid_operator (engine : Engine) {op : Operator} (builtin : op.isBuiltin = true)
    (depth : Nat) :
    Solid engine.lexicon .settled (depth + 1) (" " ++ op.symbol ++ " ") .fresh (depth + 1) := by
  cases op with
  | custom symbol => cases builtin
  | _ => cases engine <;> exact .ofFold_detached rfl rfl

/-! ## Numbers -/

/-- A plain byte that is no letter. -/
def Scan.isFigure (b : UInt8) : Bool := isPlain b && !isLetter b

theorem Scan.isFigure_of_isDigit {b : UInt8} (h : Decimal.isDigit b = true) :
    isFigure b = true := by
  rw [Decimal.isDigit, Bool.and_eq_true, decide_eq_true_iff, decide_eq_true_iff] at h
  obtain ⟨low, high⟩ := h
  rw [UInt8.le_iff_toNat_le] at low high
  have bytes : ∀ n : Nat, 0x30 ≤ n → n ≤ 0x39 → isFigure (UInt8.ofNat n) = true := by
    intro n low high
    interval_cases n <;> rfl
  simpa using bytes b.toNat low high

theorem Decimal.isFigure_ofNat (n : Nat) : ∀ b ∈ ofNat n, Scan.isFigure b = true :=
  fun b mem => Scan.isFigure_of_isDigit (isDigit_ofNat n b mem)

theorem Scan.isFigure_repeated {n : Nat} : ∀ b ∈ Text.repeated n 0x30, isFigure b = true := by
  intro b mem
  rw [List.eq_of_mem_replicate mem]
  rfl

theorem Binary.Digits.isFigure_plain (d : Digits) : d.plain.all Scan.isFigure = true := by
  have numeral := Decimal.isFigure_ofNat d.value
  have point := List.all_eq_true.mp (rfl : ("." : Text).all Scan.isFigure = true)
  have zero := List.all_eq_true.mp (rfl : ("0." : Text).all Scan.isFigure = true)
  rw [List.all_eq_true]
  intro b mem
  rw [plain] at mem
  split_ifs at mem
  · simp only [List.mem_append] at mem
    rcases mem with (mem | mem) | mem
    · exact zero b mem
    · exact Scan.isFigure_repeated b mem
    · exact numeral b mem
  · rcases List.mem_append.mp mem with mem | mem
    · exact numeral b mem
    · exact Scan.isFigure_repeated b mem
  · simp only [List.mem_append] at mem
    rcases mem with (mem | mem) | mem
    · exact numeral b (List.mem_of_mem_take mem)
    · exact point b mem
    · exact numeral b (List.mem_of_mem_drop mem)

theorem Binary.Digits.plain_ne_nil (d : Digits) : d.plain ≠ [] := by
  rw [plain]
  split_ifs
  · exact List.append_ne_nil_of_right_ne_nil _ (Decimal.ofNat_ne_nil d.value)
  · exact List.append_ne_nil_of_left_ne_nil (Decimal.ofNat_ne_nil d.value) _
  · refine List.append_ne_nil_of_left_ne_nil (List.append_ne_nil_of_right_ne_nil _ ?_) _
    exact List.cons_ne_nil _ _

/-- A minus sign is read as such when something else follows. -/
theorem Scan.solid_negative (engine : Engine) {text : Text} (nonempty : text ≠ [])
    (h : text.all isPlain = true) :
    Solid engine.lexicon .fresh 0 ("-" ++ text) .fresh 0 := by
  apply Triple.ofFold
  cases text with
  | nil => exact absurd rfl nonempty
  | cons b rest =>
    rw [List.all_cons, Bool.and_eq_true] at h
    obtain ⟨hb, hr⟩ := h
    have dash : solidStep engine.lexicon ⟨.outside, 0⟩ 0x2D = some ⟨.dash, 0⟩ := by
      cases engine <;> rfl
    have after : solidStep engine.lexicon ⟨.dash, 0⟩ b
        = solidStep engine.lexicon ⟨.outside, 0⟩ b := by
      have minus : b ≠ 0x2D := by
        rintro rfl
        exact absurd hb (by decide)
      rw [isPlain, Bool.and_eq_true, Bool.not_eq_true'] at hb
      rw [solidStep_of_not_break hb.2, solidStep_of_not_break hb.2]
      simp [step, stepOutside, minus]
    obtain ⟨s, ran, rfl⟩ := solid_plain engine hr 0 ⟨.outside, 0⟩ rfl
    show List.foldlM _ _ (0x2D :: b :: rest) = _
    rw [List.foldlM_cons, dash, Option.bind_eq_bind, Option.bind_some, List.foldlM_cons, after,
      solidStep_plain engine hb]
    exact ran

/-- A number is an operand, of any sign and magnitude. -/
theorem Scan.operand_number (engine : Engine) (x : Binary) : IsOperand engine x.plain := by
  have minus : ∀ {text : Text}, text ≠ [] → text.all isPlain = true →
      IsOperand engine ("-" ++ text) := fun nonempty plain =>
    .ofMem List.mem_cons_self rfl (solid_negative engine nonempty plain).settle
  cases x with
  | nan => exact .ofSolid (List.cons_ne_nil _ _) (by decide) (solid_plain engine rfl 0).settle
  | infinite negative =>
    cases negative with
    | true => exact minus (List.cons_ne_nil 0x49 _) rfl
    | false => exact .ofMem List.mem_cons_self rfl (solid_plain engine rfl 0).settle
  | finite negative significand exponent =>
    -- the numeral without its sign is never empty, so a sign never stands alone
    obtain ⟨numeral, hn⟩ : ∃ numeral : Text, (if significand = 0 then ("0" : Text)
        else (Binary.digits Binary.double significand exponent).plain) = numeral := ⟨_, rfl⟩
    have nonempty : numeral ≠ [] := by
      rw [← hn]
      split_ifs
      · exact List.cons_ne_nil _ _
      · exact Binary.Digits.plain_ne_nil _
    have figures : ∀ b ∈ numeral, isPlain b = true ∧ isLetter b = false := by
      intro b mem
      have all : numeral.all isFigure = true := by
        rw [← hn]
        split_ifs
        · rfl
        · exact Binary.Digits.isFigure_plain _
      simpa [isFigure] using List.all_eq_true.mp all b mem
    have plain : numeral.all isPlain = true :=
      List.all_eq_true.mpr fun b mem => (figures b mem).1
    rw [Binary.plain, Binary.textWith, hn]
    cases negative with
    | true => exact minus nonempty plain
    | false =>
      obtain ⟨b, mem⟩ := List.exists_mem_of_ne_nil numeral nonempty
      exact .ofMem mem (figures b mem).2 (solid_plain engine plain 0).settle

/-! ## Admitted expressions -/

/-- Whether a byte may stand in a function name: an ASCII letter or digit, an underscore, or a
byte of a character beyond ASCII. -/
def isNameByte (b : UInt8) : Bool :=
  (0x41 ≤ b && b ≤ 0x5A) || (0x61 ≤ b && b ≤ 0x7A) || Decimal.isDigit b || b == 0x5F || 0x80 ≤ b

theorem Scan.isPlain_of_isNameByte : ∀ b : UInt8, isNameByte b = true → isPlain b = true := by
  have bytes : ∀ n < 256, isNameByte (UInt8.ofNat n) = true →
      isPlain (UInt8.ofNat n) = true := by decide +kernel
  intro b h
  have h' := bytes b.toNat b.toNat_lt
  rw [UInt8.ofNat_toNat] at h'
  exact h' h

namespace Expr

variable {F : Type}

mutual

/-- An expression whose function names are words and whose operators are built in, and in which
SQL that is taken over as it stands is trusted. -/
def Admitted (trusted : Text → Prop) : Expr F → Prop
  | .raw sql => trusted sql
  | .column _ | .value _ | .number _ | .timestamp _ => True
  | .call name args => name.all isNameByte = true ∧ AllAdmitted trusted args
  | .binary op left right =>
    op.isBuiltin = true ∧ Admitted trusted left ∧ Admitted trusted right
  | .all conditions => AllAdmitted trusted conditions
  | .concat parts => AllAdmitted trusted parts
  | .between operand low high =>
    Admitted trusted operand ∧ Admitted trusted low ∧ Admitted trusted high
  | .distinct left right => Admitted trusted left ∧ Admitted trusted right
  | .case branches default => BranchesAdmitted trusted branches ∧ DefaultAdmitted trusted default
  | .ltrim operand _ => Admitted trusted operand
  | .formatted subject _ => Admitted trusted subject

/-- Every expression of a list is admitted. -/
def AllAdmitted (trusted : Text → Prop) : List (Expr F) → Prop
  | [] => True
  | e :: rest => Admitted trusted e ∧ AllAdmitted trusted rest

/-- The conditions and results of a case are admitted. -/
def BranchesAdmitted (trusted : Text → Prop) : List (Expr F × Expr F) → Prop
  | [] => True
  | (condition, result) :: rest =>
    Admitted trusted condition ∧ Admitted trusted result ∧ BranchesAdmitted trusted rest

/-- The default of a case is admitted. -/
def DefaultAdmitted (trusted : Text → Prop) : Option (Expr F) → Prop
  | none => True
  | some e => Admitted trusted e

end

end Expr

/-! ## The pieces of an expression -/

namespace Scan

variable {engine : Engine}

/-- Text in parentheses is an operand. -/
theorem operand_parens {text : Text} (h : Solid engine.lexicon .fresh 1 text .settled 1) :
    IsOperand engine ("(" ++ text ++ ")") :=
  .ofClosed rfl (((solid_open engine 0).append h).append (solid_close engine 0)).settle

theorem operand_call {name text : Text} (word : name.all isNameByte = true)
    (h : Solid engine.lexicon .fresh 1 text .settled 1) :
    IsOperand engine (name ++ "(" ++ text ++ ")") := by
  have plain : name.all isPlain = true :=
    List.all_eq_true.mpr fun b mem => isPlain_of_isNameByte b (List.all_eq_true.mp word b mem)
  have opened := (solid_plain engine plain 0).append (solid_open engine 0)
  exact .ofClosed rfl ((opened.append h).append (solid_close engine 0)).settle

/-- Texts in a list, separated by words and blanks, in parentheses. -/
theorem solid_list {separator : Text} (nonempty : separator ≠ [])
    (inert : separator.all isInert = true) {texts : List Text}
    (h : ∀ text ∈ texts, Passes engine.lexicon text) (depth : Nat) :
    Solid engine.lexicon .fresh (depth + 1) (Text.joinWith separator texts) .settled
      (depth + 1) :=
  Triple.joinWith (solid_between engine nonempty inert depth) texts
    fun text mem => (h text mem).solid depth

theorem operand_concat {texts : List Text} (h : ∀ text ∈ texts, Passes engine.lexicon text) :
    IsOperand engine (Sql.concat engine.kind texts) := by
  have commas : Solid engine.lexicon .fresh 2 (Text.joinWith ", " texts) .settled 2 :=
    solid_list (by decide) rfl h 1
  have bars : Solid engine.lexicon .fresh 1 (Text.joinWith " || " texts) .settled 1 :=
    solid_list (by decide) rfl h 0
  have opened : Solid engine.lexicon .fresh 0 "(concat(" .fresh 2 := by
    cases engine <;> exact Triple.ofFold rfl
  have closed : Solid engine.lexicon .settled 2 "))" .fresh 0 := by
    cases engine <;> exact .ofFold_detached rfl rfl
  cases engine with
  | sqlite | postgres => exact operand_parens bars
  | mysql | sqlserver =>
    exact .ofClosed rfl ((opened.append commas).append closed).settle

theorem operand_distinct {l r : Text} (hl : Passes engine.lexicon l)
    (hr : Passes engine.lexicon r) : IsOperand engine (Sql.distinct engine.kind l r) := by
  have left := hl.solid
  have right := hr.solid
  cases engine with
  | mysql =>
    have opened : Solid Engine.mysql.lexicon .fresh 0 "(not " .fresh 1 := Triple.ofFold rfl
    have middle : Solid Engine.mysql.lexicon .settled 1 " <=> " .fresh 1 :=
      .ofFold_detached rfl rfl
    exact .ofClosed rfl ((((opened.append (left 0)).append middle).append (right 0)).append
      (solid_close _ 0)).settle
  | sqlite | postgres =>
    refine .ofClosed rfl (((((solid_open _ 0).append (left 0)).append ?_).append (right 0)).append
      (solid_close _ 0)).settle
    exact Solid.ofFold_detached rfl rfl
  | sqlserver =>
    -- three comparisons, each operand three times
    have ne : Solid Engine.sqlserver.lexicon .settled 1 " != " .fresh 1 :=
      .ofFold_detached rfl rfl
    have either : Solid Engine.sqlserver.lexicon .settled 1 " or (" .fresh 2 :=
      .ofFold_detached rfl rfl
    have notNull : Solid Engine.sqlserver.lexicon .settled 2 " is not null and " .fresh 2 :=
      .ofFold_detached rfl rfl
    have next : Solid Engine.sqlserver.lexicon .settled 2 " is null) or (" .fresh 2 :=
      .ofFold_detached rfl rfl
    have null : Solid Engine.sqlserver.lexicon .settled 2 " is null and " .fresh 2 :=
      .ofFold_detached rfl rfl
    have closed : Solid Engine.sqlserver.lexicon .settled 2 " is not null))" .fresh 0 :=
      .ofFold_detached rfl rfl
    have first := ((solid_open _ 0).append (left 0)).append ne |>.append (right 0)
    have second := (first.append either).append (left 1) |>.append notNull |>.append (right 1)
    have third := (second.append next).append (left 1) |>.append null |>.append (right 1)
    exact .ofClosed rfl (third.append closed).settle

theorem operand_ltrim {operand : Text} (h : Passes engine.lexicon operand) (chars : Text) :
    IsOperand engine (Sql.ltrim engine.grammar operand chars) := by
  have quoted := solid_string engine (if chars.isEmpty then " " else chars) 1
  have comma : Solid engine.lexicon .settled 1 ", " .fresh 1 :=
    solid_between engine (by decide) rfl 0
  have opened : Solid engine.lexicon .fresh 0 "ltrim(" .fresh 1 := by
    cases engine <;> exact Triple.ofFold rfl
  cases engine with
  | mysql =>
    have opened : Solid Engine.mysql.lexicon .fresh 0 "trim(leading " .fresh 1 :=
      Triple.ofFold rfl
    have middle : Solid Engine.mysql.lexicon .settled 1 " from " .fresh 1 :=
      .ofFold_detached rfl rfl
    exact .ofClosed rfl ((((opened.append quoted).append middle).append (h.solid 0)).append
      (solid_close _ 0)).settle
  | sqlite | postgres | sqlserver =>
    exact .ofClosed rfl ((((opened.append (h.solid 0)).append comma).append quoted).append
      (solid_close _ 0)).settle

theorem operand_string (engine : Engine) (text : Text) :
    IsOperand engine (engine.grammar.string text) := by
  have quote : (0x27 : UInt8) ∈ engine.grammar.string text := by
    rw [Grammar.string_eq]
    exact List.mem_cons_self
  exact .ofMem quote rfl (solid_string engine text 0)

/-- A timestamp is an operand. On PostgreSQL it has two words. -/
theorem operand_timestamp (engine : Engine) (t : Moment) :
    IsOperand engine (Sql.timestamp engine.grammar t) := by
  cases engine with
  | mysql =>
    have opened : Solid Engine.mysql.lexicon .fresh 0 "timestamp(" .fresh 1 := Triple.ofFold rfl
    exact .ofClosed rfl ((opened.append (solid_string .mysql _ 1)).append
      (solid_close _ 0)).settle
  | sqlite => exact operand_string .sqlite _
  | postgres =>
    have text : Sql.timestamp Engine.postgres.grammar t
        = "timestamp" ++ " " ++ Engine.postgres.grammar.string (t.clockText " ") := rfl
    obtain ⟨passes, ws, found, nonempty, operands⟩ := operand_string .postgres (t.clockText " ")
    have front : Moves Engine.postgres.lexicon .fresh 0 ("timestamp" ++ " ") .fresh 0 :=
      Triple.ofFold rfl
    have first : words Engine.postgres.lexicon "timestamp" = some [("timestamp" : Text)] := by
      decide
    rw [text]
    refine ⟨(front.append passes).settle, _, words_append first found, List.cons_ne_nil _ _, ?_⟩
    rw [List.all_append, operands]
    decide
  | sqlserver =>
    have opened : Solid Engine.sqlserver.lexicon .fresh 0 "cast(" .fresh 1 := Triple.ofFold rfl
    have closed : Solid Engine.sqlserver.lexicon .settled 1 " as datetime2)" .fresh 0 :=
      .ofFold_detached rfl rfl
    exact .ofClosed rfl ((opened.append (solid_string .sqlserver _ 1)).append closed).settle

/-- A dotted name is an operand. -/
theorem operand_path (engine : Engine) (name : Text) :
    IsOperand engine (engine.grammar.path name) := by
  obtain ⟨first, others, cut⟩ :=
    List.exists_cons_of_ne_nil (Text.splitAtByte_ne_nil 0x2E name)
  have mark : ∃ b ∈ engine.grammar.segment first, isLetter b = false := by
    rw [Grammar.segment]
    split_ifs
    · exact ⟨0x2A, List.mem_cons_self, rfl⟩
    · refine ⟨engine.endQuote, ?_, by cases engine <;> rfl⟩
      rw [Engine.identifier_eq]
      exact List.mem_append_right _ (List.mem_append_right _ List.mem_cons_self)
  obtain ⟨b, mem, other⟩ := mark
  refine .ofMem ?_ other (solid_path engine name)
  rw [Grammar.path, cut, List.map_cons, Text.joinWith_cons]
  exact List.mem_append_left _ mem

end Scan

/-! ## Every expression -/

namespace Expr

variable {F : Type} {engine : Engine} {format : F → Text → Text} {trusted : Text → Prop}

/-- What the SQL of an expression may be: SQL that is taken over, a formatted date, or an
operand that is put together here. -/
inductive Shape (engine : Engine) (trusted : Text → Prop) (format : F → Text → Text) :
    Expr F → Text → Prop where
  | raw {sql : Text} (h : trusted sql) : Shape engine trusted format (.raw sql) sql
  | formatted {e : Expr F} (f : F) {sql : Text} (h : Scan.Passes engine.lexicon sql) :
    Shape engine trusted format e (format f sql)
  | operand {e : Expr F} {text : Text} (h : Scan.IsOperand engine text) :
    Shape engine trusted format e text

theorem Shape.passes (sound : ∀ sql, trusted sql → Scan.Passes engine.lexicon sql)
    (formats : ∀ f sql, Scan.Passes engine.lexicon sql →
      Scan.Passes engine.lexicon (format f sql)) {e : Expr F} {text : Text}
    (h : Shape engine trusted format e text) : Scan.Passes engine.lexicon text := by
  cases h with
  | raw h => exact sound _ h
  | formatted f h => exact formats f _ h
  | operand h => exact h.passes

theorem Shape.isOperand {e : Expr F}
    (sound : ∀ sql, e = .raw sql → trusted sql → Scan.IsOperand engine sql)
    (formats : ∀ f sql, Scan.Passes engine.lexicon sql → Scan.IsOperand engine (format f sql))
    {text : Text} (h : Shape engine trusted format e text) : Scan.IsOperand engine text := by
  cases h with
  | raw h => exact sound _ rfl h
  | formatted f h => exact formats f _ h
  | operand h => exact h

mutual

/-- The shape of an admitted expression, if trusted SQL and formatted dates pass. -/
theorem shape_text (sound : ∀ sql, trusted sql → Scan.Passes engine.lexicon sql)
    (formats : ∀ f sql, Scan.Passes engine.lexicon sql →
      Scan.Passes engine.lexicon (format f sql)) :
    ∀ e : Expr F, e.Admitted trusted →
      Shape engine trusted format e (e.text engine.grammar format)
  | .raw _, h => .raw h
  | .column name, _ => .operand (Scan.operand_path engine name)
  | .value text, _ => .operand (Scan.operand_string engine text)
  | .number x, _ => .operand (Scan.operand_number engine x)
  | .timestamp t, _ => .operand (Scan.operand_timestamp engine t)
  | .call name args, ⟨word, h⟩ =>
    .operand (Scan.operand_call word
      (Scan.solid_list (by decide) rfl (passes_texts sound formats args h) 0))
  | .binary op left right, ⟨builtin, hl, hr⟩ => by
    have first := ((shape_text sound formats left hl).passes sound formats).solid 0
    have second := ((shape_text sound formats right hr).passes sound formats).solid 0
    have inside := (first.append (Scan.solid_operator engine builtin 0)).append second
    have parens := Scan.operand_parens inside
    refine .operand ?_
    simpa only [text, List.append_assoc] using parens
  | .all conditions, h =>
    .operand (Scan.operand_parens
      (Scan.solid_list (by decide) rfl (passes_texts sound formats conditions h) 0))
  | .concat parts, h => by
    have kind : engine.grammar.kind = engine.kind := by cases engine <;> rfl
    rw [text, kind]
    exact .operand (Scan.operand_concat (passes_texts sound formats parts h))
  | .between operand low high, ⟨ho, hl, hh⟩ => by
    have between : Scan.Solid engine.lexicon .settled 1 " between " .fresh 1 :=
      Scan.solid_between engine (by decide) rfl 0
    have and : Scan.Solid engine.lexicon .settled 1 " and " .fresh 1 :=
      Scan.solid_between engine (by decide) rfl 0
    have first := ((shape_text sound formats operand ho).passes sound formats).solid 0
    have second := ((shape_text sound formats low hl).passes sound formats).solid 0
    have third := ((shape_text sound formats high hh).passes sound formats).solid 0
    have opened := (Scan.solid_open engine 0).append first |>.append between
    exact .operand (.ofClosed rfl
      ((((opened.append second).append and).append third).append
        (Scan.solid_close engine 0)).settle)
  | .distinct left right, ⟨hl, hr⟩ => by
    have kind : engine.grammar.kind = engine.kind := by cases engine <;> rfl
    rw [text, kind]
    exact .operand (Scan.operand_distinct
      ((shape_text sound formats left hl).passes sound formats)
      ((shape_text sound formats right hr).passes sound formats))
  | .case branches default, ⟨hb, hd⟩ => by
    have opened : Scan.Solid engine.lexicon .fresh 0 "(case" .fresh 1 := by
      cases engine <;> exact Scan.Triple.ofFold rfl
    have closed : Scan.Solid engine.lexicon .settled 1 " end)" .fresh 0 := by
      cases engine <;> exact .ofFold_detached rfl rfl
    have branched := solid_branchTexts sound formats branches hb
    have defaulted := solid_defaultText sound formats default hd
    exact .operand (.ofClosed rfl
      (((opened.settle.append branched).append defaulted).append closed).settle)
  | .ltrim operand chars, h =>
    .operand (Scan.operand_ltrim ((shape_text sound formats operand h).passes sound formats) chars)
  | .formatted subject f, h =>
    .formatted f ((shape_text sound formats subject h).passes sound formats)

theorem passes_texts (sound : ∀ sql, trusted sql → Scan.Passes engine.lexicon sql)
    (formats : ∀ f sql, Scan.Passes engine.lexicon sql →
      Scan.Passes engine.lexicon (format f sql)) :
    ∀ es : List (Expr F), AllAdmitted trusted es →
      ∀ text ∈ texts engine.grammar format es, Scan.Passes engine.lexicon text
  | [], _, _, mem => absurd mem List.not_mem_nil
  | e :: rest, ⟨he, hr⟩, text, mem => by
    rw [texts, List.mem_cons] at mem
    rcases mem with rfl | mem
    · exact (shape_text sound formats e he).passes sound formats
    · exact passes_texts sound formats rest hr text mem

theorem solid_branchTexts (sound : ∀ sql, trusted sql → Scan.Passes engine.lexicon sql)
    (formats : ∀ f sql, Scan.Passes engine.lexicon sql →
      Scan.Passes engine.lexicon (format f sql)) :
    ∀ branches : List (Expr F × Expr F), BranchesAdmitted trusted branches →
      Scan.Solid engine.lexicon .settled 1 (branchTexts engine.grammar format branches) .settled 1
  | [], _ => Scan.Triple.nil
  | (condition, result) :: rest, ⟨hc, hr, h⟩ => by
    have when : Scan.Solid engine.lexicon .settled 1 " when " .fresh 1 :=
      Scan.solid_between engine (by decide) rfl 0
    have then_ : Scan.Solid engine.lexicon .settled 1 " then " .fresh 1 :=
      Scan.solid_between engine (by decide) rfl 0
    have first := ((shape_text sound formats condition hc).passes sound formats).solid 0
    have second := ((shape_text sound formats result hr).passes sound formats).solid 0
    have branch := ((when.append first).append then_).append second
    exact branch.append (solid_branchTexts sound formats rest h)

theorem solid_defaultText (sound : ∀ sql, trusted sql → Scan.Passes engine.lexicon sql)
    (formats : ∀ f sql, Scan.Passes engine.lexicon sql →
      Scan.Passes engine.lexicon (format f sql)) :
    ∀ default : Option (Expr F), DefaultAdmitted trusted default →
      Scan.Solid engine.lexicon .settled 1 (defaultText engine.grammar format default) .settled 1
  | none, _ => Scan.Triple.nil
  | some e, h => by
    have otherwise : Scan.Solid engine.lexicon .settled 1 " else " .fresh 1 :=
      Scan.solid_between engine (by decide) rfl 0
    exact otherwise.append (((shape_text sound formats e h).passes sound formats).solid 0)

end

/-- **The SQL of an admitted expression passes**, if trusted SQL and formatted dates do. -/
theorem passes_text (sound : ∀ sql, trusted sql → Scan.Passes engine.lexicon sql)
    (formats : ∀ f sql, Scan.Passes engine.lexicon sql →
      Scan.Passes engine.lexicon (format f sql)) (e : Expr F) (admitted : e.Admitted trusted) :
    Scan.Passes engine.lexicon (e.text engine.grammar format) :=
  (shape_text sound formats e admitted).passes sound formats

/-- **The SQL of an admitted expression is an operand**, if trusted SQL and formatted dates
are. -/
theorem operand_text (sound : ∀ sql, trusted sql → Scan.IsOperand engine sql)
    (formats : ∀ f sql, Scan.Passes engine.lexicon sql →
      Scan.IsOperand engine (format f sql)) (e : Expr F) (admitted : e.Admitted trusted) :
    Scan.IsOperand engine (e.text engine.grammar format) := by
  refine (shape_text ?_ ?_ e admitted).isOperand (fun sql _ => sound sql) formats
  · exact fun sql h => (sound sql h).passes
  · exact fun f sql h => (formats f sql h).passes

end Expr

end DatePattern
