import DatePattern.Proofs.Pattern.Encoding
import DatePattern.Proofs.Pattern.Tokens
import DatePattern.Proofs.Plan.Stages

/-!
# One accepted language

Which formats are accepted is decided in one place and reported everywhere alike. The tokenizer
walks over a format with a state of its own (a backslash takes the next character along); the
rule it amounts to has no state: a rejected character counts when an even number of backslashes
stands directly before it.

- `RejectedAt`: that rule, over the characters of a format;
- `Pattern.findSome?_fault?`: the first fault among the tokens is the first place where the rule
  applies. The induction runs over the tokens, and what it carries is that the run of backslashes
  in front of a token is even;
- `Pattern.validate_cases`: the three outcomes of the check, and so of every entry point on
  every engine;
- `Reference.render_plain`: a format without backslashes is rendered character by character.
-/

namespace DatePattern

/-! ## Rejected characters -/

/-- The length of the run of backslashes at the front of a list of characters. -/
def backslashRun (cs : List Char) : Nat := (cs.takeWhile (· = '\\')).length

/-- A rejected character `c` stands at position `i`, directly behind an even number of
backslashes. -/
def RejectedAt (cs : List Char) (i : Nat) (c : Char) : Prop :=
  cs[i]? = some c ∧ c ∈ "BceILNOPprSTuvXxzZ".toList ∧ Even (backslashRun (cs.take i).reverse)

theorem Charset.isUnsupported_iff (c : Char) :
    Charset.isUnsupported c = true ↔ c ∈ "BceILNOPprSTuvXxzZ".toList := by
  rw [Charset.isUnsupported, List.contains_iff_mem]
  rfl

namespace Pattern

/-- `RejectedAt` for the characters that stand behind others, given in reverse. -/
def RejectedBehind (behind cs : List Char) (i : Nat) (c : Char) : Prop :=
  cs[i]? = some c ∧ c ∈ "BceILNOPprSTuvXxzZ".toList ∧
    Even (backslashRun ((cs.take i).reverse ++ behind))

/-- The first place where a rejected character counts. -/
def FirstRejected (behind cs : List Char) (i : Nat) (c : Char) : Prop :=
  RejectedBehind behind cs i c ∧ ∀ j < i, ∀ d, ¬ RejectedBehind behind cs j d

theorem rejectedBehind_nil (cs : List Char) (i : Nat) (c : Char) :
    RejectedBehind [] cs i c ↔ RejectedAt cs i c := by
  rw [RejectedBehind, RejectedAt, List.append_nil]

theorem rejectedBehind_zero (behind cs : List Char) (a c : Char) :
    RejectedBehind behind (a :: cs) 0 c ↔
      a = c ∧ c ∈ "BceILNOPprSTuvXxzZ".toList ∧ Even (backslashRun behind) := by
  simp [RejectedBehind]

theorem rejectedBehind_succ (behind cs : List Char) (a c : Char) (i : Nat) :
    RejectedBehind behind (a :: cs) (i + 1) c ↔ RejectedBehind (a :: behind) cs i c := by
  simp [RejectedBehind]

/-- A first place further on is a first place, when nothing counts at the front. -/
theorem FirstRejected.succ {behind cs : List Char} {a c : Char} {i : Nat}
    (front : ∀ d, ¬ RejectedBehind behind (a :: cs) 0 d)
    (h : FirstRejected (a :: behind) cs i c) : FirstRejected behind (a :: cs) (i + 1) c := by
  refine ⟨(rejectedBehind_succ ..).mpr h.1, fun j hj d => ?_⟩
  cases j with
  | zero => exact front d
  | succ j =>
    rw [rejectedBehind_succ]
    exact h.2 j (Nat.lt_of_succ_lt_succ hj) d

theorem not_rejectedBehind_cons {behind cs : List Char} {a : Char}
    (front : ∀ d, ¬ RejectedBehind behind (a :: cs) 0 d)
    (h : ∀ i c, ¬ RejectedBehind (a :: behind) cs i c) (i : Nat) (c : Char) :
    ¬ RejectedBehind behind (a :: cs) i c := by
  cases i with
  | zero => exact front c
  | succ i =>
    rw [rejectedBehind_succ]
    exact h i c

/-- What the first fault of the tokens says about the characters they were read from. -/
def Reports (behind cs : List Char) (pos : Nat) : Option PatternError → Prop
  | none => ∀ i c, ¬ RejectedBehind behind cs i c
  | some e => ∃ i c, e = .unsupported c ((pos + i : Nat) : Int) ∧ FirstRejected behind cs i c

/-- A character at the front that does not count is passed over. -/
theorem Reports.cons {behind cs : List Char} {a : Char} {pos : Nat} {e : Option PatternError}
    (front : ∀ d, ¬ RejectedBehind behind (a :: cs) 0 d)
    (h : Reports (a :: behind) cs (pos + 1) e) : Reports behind (a :: cs) pos e := by
  cases e with
  | none => exact not_rejectedBehind_cons front h
  | some e =>
    obtain ⟨i, c, rfl, first⟩ := h
    refine ⟨i + 1, c, ?_, first.succ front⟩
    rw [Nat.add_assoc, Nat.add_comm 1 i]

theorem backslashRun_cons_self (cs : List Char) :
    backslashRun ('\\' :: cs) = backslashRun cs + 1 := by
  simp [backslashRun]

theorem backslashRun_cons_of_ne {a : Char} (h : a ≠ '\\') (cs : List Char) :
    backslashRun (a :: cs) = 0 := by
  simp [backslashRun, h]

theorem fault?_plain (c : Char) (pos : Nat) :
    fault? (Token.plain c pos) =
      if c ∈ "BceILNOPprSTuvXxzZ".toList then some (.unsupported c pos) else none := by
  rw [fault?, Token.char_plain]
  have h := Charset.isUnsupported_iff c
  by_cases hc : c ∈ "BceILNOPprSTuvXxzZ".toList
  · rw [if_pos hc, h.mpr hc]
    rfl
  · rw [if_neg hc, Bool.eq_false_iff.mpr (mt h.mp hc)]
    rfl

theorem not_rejectedBehind_backslash (behind cs : List Char) (d : Char) :
    ¬ RejectedBehind behind ('\\' :: cs) 0 d := by
  rw [rejectedBehind_zero]
  rintro ⟨rfl, mem, -⟩
  exact absurd mem (by decide)

/-- An unescaped character is reported itself when it is rejected, and passed over otherwise. -/
theorem Reports.plain {behind cs : List Char} {a : Char} {pos : Nat} {e : Option PatternError}
    (even : Even (backslashRun behind)) (h : Reports (a :: behind) cs (pos + 1) e) :
    Reports behind (a :: cs) pos ((fault? (Token.plain a pos)).or e) := by
  rw [fault?_plain]
  by_cases ha : a ∈ "BceILNOPprSTuvXxzZ".toList
  · rw [if_pos ha]
    refine ⟨0, a, rfl, (rejectedBehind_zero ..).mpr ⟨rfl, ha, even⟩, fun j hj => ?_⟩
    exact absurd hj (Nat.not_lt_zero j)
  · rw [if_neg ha]
    refine h.cons fun d => ?_
    rw [rejectedBehind_zero]
    rintro ⟨rfl, mem, -⟩
    exact ha mem

/-- The run of backslashes behind an unescaped character is empty. -/
theorem even_backslashRun_plain {a : Char} (h : a ≠ '\\') (behind : List Char) :
    Even (backslashRun (a :: behind)) := by
  rw [backslashRun_cons_of_ne h]
  exact Even.zero

/-- A backslash and the character it takes along leave an even run of backslashes even. -/
theorem even_backslashRun_escaped (a : Char) {behind : List Char}
    (even : Even (backslashRun behind)) : Even (backslashRun (a :: '\\' :: behind)) := by
  by_cases ha : a = '\\'
  · rw [ha, backslashRun_cons_self, backslashRun_cons_self]
    exact even.add_one.add_one
  · exact even_backslashRun_plain ha _

/-- A character that a backslash takes along does not count: the run before it is odd. -/
theorem not_rejectedBehind_escaped {behind : List Char} (even : Even (backslashRun behind))
    (a : Char) (cs : List Char) (d : Char) : ¬ RejectedBehind ('\\' :: behind) (a :: cs) 0 d := by
  rw [rejectedBehind_zero, backslashRun_cons_self]
  rintro ⟨-, -, odd⟩
  exact Nat.not_even_iff_odd.mpr even.add_one odd

/-- **The tokenizer follows the parity rule**: behind an even run of backslashes, the first fault
of the tokens is the first rejected character that counts. -/
theorem findSome?_fault? (pos : Nat) (cs behind : List Char)
    (even : Even (backslashRun behind)) :
    Reports behind cs pos ((Token.ofCharsFrom pos cs).findSome? fault?) := by
  have none : ∀ behind pos, Reports behind [] pos none := by
    intro behind pos i c h
    simp [RejectedBehind] at h
  induction cs using Token.reading_induction generalizing pos behind with
  | nil => exact none behind pos
  | trailing => exact (none _ _).cons (not_rejectedBehind_backslash behind [])
  | escaped c rest ih =>
    rw [Token.ofCharsFrom_escaped, List.findSome?_cons]
    have passed := (ih (pos + 2) _ (even_backslashRun_escaped c even)).cons
      (not_rejectedBehind_escaped even c rest)
    exact passed.cons (not_rejectedBehind_backslash behind _)
  | plain c rest hc ih =>
    rw [Token.ofCharsFrom_plain pos hc, List.findSome?_cons]
    have step := (ih (pos + 1) _ (even_backslashRun_plain hc behind)).plain even
    cases hf : fault? (Token.plain c pos) <;> rw [hf] at step <;> exact step

/-! ## The check -/

/-- The check of a format without stray bytes is that of its tokens. -/
theorem validate_eq {format : Text} (valid : format.isUtf8 = true) :
    validate format = ((Token.tokenize format).findSome? fault?).elim (.ok ()) .error := by
  rw [validate, checkEncoding_of_isUtf8 valid]
  cases (Token.tokenize format).findSome? fault? <;> rfl

/-- **The check of a format**: a stray byte comes first, then the first rejected character that
counts; nothing else is an error. -/
theorem validate_cases (format : Text) :
    (format.isUtf8 = false ∧ ∃ offset, validate format = .error (.strayByte offset)) ∨
    (∃ cs i c, format = Text.ofChars cs ∧ validate format = .error (.unsupported c (i : Nat)) ∧
      RejectedAt cs i c ∧ ∀ j < i, ∀ d, ¬ RejectedAt cs j d) ∨
    (∃ cs, format = Text.ofChars cs ∧ validate format = .ok () ∧
      ∀ i c, ¬ RejectedAt cs i c) := by
  obtain ⟨valid, -⟩ | ⟨invalid, offset, -, fails⟩ := checkEncoding_cases format
  · right
    obtain ⟨cs, rfl⟩ := (Text.isUtf8_iff format).mp valid
    have reports := findSome?_fault? 0 cs [] Even.zero
    have run := validate_eq valid
    rw [Token.tokenize, Text.chars_ofChars] at run
    simp only [← rejectedBehind_nil]
    cases found : (Token.ofCharsFrom 0 cs).findSome? fault? with
    | none =>
      rw [found] at reports run
      exact .inr ⟨cs, rfl, run, reports⟩
    | some e =>
      rw [found] at reports run
      obtain ⟨i, c, rfl, first⟩ := reports
      rw [Nat.zero_add] at run
      exact .inl ⟨cs, i, c, rfl, run, first⟩
  · refine .inl ⟨invalid, offset, ?_⟩
    rw [validate, fails]
    rfl

/-- An accepted format has no stray bytes. -/
theorem isUtf8_of_accepted {format : Text} (accepted : validate format = .ok ()) :
    format.isUtf8 = true := by
  obtain ⟨-, offset, fails⟩ | ⟨cs, -, -, rfl, -⟩ | ⟨cs, rfl, -⟩ := validate_cases format
  · rw [fails] at accepted
    cases accepted
  · exact (Text.isUtf8_iff _).mpr ⟨cs, rfl⟩
  · exact (Text.isUtf8_iff _).mpr ⟨cs, rfl⟩

theorem parse_eq_ok {format : Text} (accepted : validate format = .ok ()) :
    parse format = .ok ⟨format, accepted⟩ := by
  unfold parse
  split
  · rfl
  · next e rejected => rw [accepted] at rejected; cases rejected

theorem parse_eq_error {format : Text} {e : PatternError} (rejected : validate format = .error e) :
    parse format = .error e := by
  unfold parse
  split
  · next accepted => rw [accepted] at rejected; cases rejected
  · next e' rejected' =>
    rw [rejected'] at rejected
    exact congrArg _ (Except.error.inj rejected)

theorem format_of_parse {format : Text} {pattern : Pattern} (h : parse format = .ok pattern) :
    pattern.format = format := by
  cases hv : validate format with
  | ok u =>
    rw [parse_eq_ok hv] at h
    cases h
    rfl
  | error e =>
    rw [parse_eq_error hv] at h
    cases h

end Pattern

/-! ## One verdict -/

/-- The error of a computation that failed. -/
def failure? {ε α : Type} : Except ε α → Option ε
  | .ok _ => none
  | .error e => some e

namespace Pattern

theorem failure?_parse (format : Text) : failure? (parse format) = failure? (validate format) := by
  cases h : validate format with
  | ok u => rw [parse_eq_ok h]; rfl
  | error e => rw [parse_eq_error h]; rfl

theorem failure?_render (t : Moment) (format : Text) :
    failure? (Reference.render t format) = failure? (validate format) := by
  rw [render_eq]
  cases validate format <;> rfl

theorem failure?_explain (engine : Engine) (format : Text) :
    failure? (explain engine.kind format) = (failure? (validate format)).map .pattern := by
  rw [explain_eq]
  cases validate format <;> rfl

theorem failure?_plan (engine : Engine) (format : Text) :
    failure? (plan engine.kind format) = (failure? (validate format)).map .pattern := by
  rw [plan_eq]
  cases validate format <;> rfl

theorem failure?_compile {g : Grammar} {engine : Engine} (kind : g.kind = engine.kind)
    (subject : SqlExpr) (format : Text) :
    failure? (compile g subject format) = (failure? (validate format)).map .pattern := by
  rw [compile, compileText_eq kind]
  cases validate format <;> rfl

/-- The check reports a stray byte exactly when the format encodes no characters. -/
theorem exists_strayByte_iff (format : Text) :
    (∃ offset, failure? (validate format) = some (.strayByte offset)) ↔
      ¬ ∃ cs, format = Text.ofChars cs := by
  rw [← Text.isUtf8_iff, Bool.not_eq_true]
  obtain ⟨stray, offset, h⟩ | ⟨cs, i, c, hcs, h, -⟩ | ⟨cs, hcs, h, -⟩ := validate_cases format
  · rw [h]
    exact ⟨fun _ => stray, fun _ => ⟨offset, rfl⟩⟩
  · rw [h, (Text.isUtf8_iff format).mpr ⟨cs, hcs⟩]
    simp [failure?]
  · rw [h, (Text.isUtf8_iff format).mpr ⟨cs, hcs⟩]
    simp [failure?]

/-- The check reports a rejected character exactly when one counts. -/
theorem exists_unsupported_iff (cs : List Char) :
    (∃ c pos, failure? (validate (Text.ofChars cs)) = some (.unsupported c pos)) ↔
      ∃ i c, RejectedAt cs i c := by
  obtain ⟨stray, -⟩ | ⟨cs', i, c, hcs, h, rejected, -⟩ | ⟨cs', hcs, h, none⟩ :=
    validate_cases (Text.ofChars cs)
  · rw [(Text.isUtf8_iff _).mpr ⟨cs, rfl⟩] at stray
    cases stray
  · rw [h, Text.ofChars_injective hcs]
    exact ⟨fun _ => ⟨i, c, rejected⟩, fun _ => ⟨c, i, rfl⟩⟩
  · rw [h, Text.ofChars_injective hcs]
    constructor
    · rintro ⟨c, pos, h⟩
      cases h
    · rintro ⟨i, c, rejected⟩
      exact absurd rejected (none i c)

/-- The rejected character that is reported is the first that counts. -/
theorem first_of_unsupported {cs : List Char} {c : Char} {pos : Int}
    (h : failure? (validate (Text.ofChars cs)) = some (.unsupported c pos)) :
    ∃ i : Nat, pos = i ∧ RejectedAt cs i c ∧ ∀ j < i, ∀ d, ¬ RejectedAt cs j d := by
  obtain ⟨-, offset, run⟩ | ⟨cs', i, c', hcs, run, first⟩ | ⟨cs', hcs, run, -⟩ :=
    validate_cases (Text.ofChars cs)
  · rw [run] at h
    cases h
  · rw [run] at h
    cases h
    rw [Text.ofChars_injective hcs]
    exact ⟨i, rfl, first⟩
  · rw [run] at h
    cases h

end Pattern

/-- The SQL of a format inside an expression is that of the format by itself. -/
theorem Expr.sql_formatted {g : Grammar} (valid : g.kind.isValid = true) {subject : SqlExpr}
    {pattern : Pattern} {sql : Text} (h : compile g subject pattern.format = .ok sql) :
    (Expr.formatted subject pattern).sql g = .ok sql := by
  rw [compile, Expr.render] at h
  have rendered : (Expr.formatted subject pattern).render g = sql := by
    rw [Expr.render, Expr.text, h]
  rw [Expr.sql, valid, rendered]
  simp

/-- **One accepted language, one error.** On a dialect of an engine, checking a format, making a
pattern of it, planning, explaining and compiling it and rendering it by the reference all succeed
or all fail with the same error. The error is a stray byte exactly when the format is not UTF-8;
otherwise it is a rejected character exactly when one stands behind an even number of backslashes,
and it names the first such character and its position. A pattern always has SQL. -/
theorem one_verdict (format : Text) (g : Grammar) (valid : g.kind.isValid = true)
    (subject : SqlExpr) (t : Moment) :
    ∃ verdict : Option PatternError,
      failure? (Pattern.validate format) = verdict ∧
      failure? (Pattern.parse format) = verdict ∧
      failure? (Reference.render t format) = verdict ∧
      failure? (plan g.kind format) = verdict.map .pattern ∧
      failure? (explain g.kind format) = verdict.map .pattern ∧
      failure? (compile g subject format) = verdict.map .pattern ∧
      ((∃ offset, verdict = some (.strayByte offset)) ↔ ¬ ∃ cs, format = Text.ofChars cs) ∧
      (∀ cs, format = Text.ofChars cs →
        ((∃ c pos, verdict = some (.unsupported c pos)) ↔ ∃ i c, RejectedAt cs i c) ∧
        ∀ c pos, verdict = some (.unsupported c pos) →
          ∃ i : Nat, pos = i ∧ RejectedAt cs i c ∧ ∀ j < i, ∀ d, ¬ RejectedAt cs j d) ∧
      ∀ pattern, Pattern.parse format = .ok pattern →
        ∃ sql, compile g subject format = .ok sql ∧
          (Expr.formatted subject pattern).sql g = .ok sql := by
  obtain ⟨engine, kind⟩ := Kind.eq_kind_of_isValid valid
  refine ⟨failure? (Pattern.validate format), rfl, Pattern.failure?_parse format,
    Pattern.failure?_render t format, ?_, ?_, Pattern.failure?_compile kind subject format,
    Pattern.exists_strayByte_iff format, ?_, ?_⟩
  · rw [kind]
    exact Pattern.failure?_plan engine format
  · rw [kind]
    exact Pattern.failure?_explain engine format
  · rintro cs rfl
    exact ⟨Pattern.exists_unsupported_iff cs, fun c pos => Pattern.first_of_unsupported⟩
  · intro pattern parsed
    -- a pattern was accepted, so compiling it cannot fail
    have same : pattern.format = format := Pattern.format_of_parse parsed
    have accepted : Pattern.validate format = .ok () := same ▸ pattern.accepted
    have compiled : ∃ sql, compile g subject format = .ok sql := by
      rw [compile, compileText_eq kind, accepted]
      exact ⟨_, rfl⟩
    obtain ⟨sql, h⟩ := compiled
    exact ⟨sql, h, Expr.sql_formatted valid (same.symm ▸ h)⟩

/-- Two backslashes leave the character behind them exposed, at the position counted in
characters: the `é` before them is two bytes. -/
theorem one_verdict_example :
    let format := Text.ofChars ['é', '\\', '\\', 'T']
    Engine.mysql.grammar.kind.isValid = true ∧
      failure? (Pattern.validate format) = some (.unsupported 'T' 3) ∧
      failure? (Pattern.parse format) = some (.unsupported 'T' 3) ∧
      failure? (Reference.render .zero format) = some (.unsupported 'T' 3) ∧
      failure? (plan Engine.mysql.grammar.kind format) = some (.pattern (.unsupported 'T' 3)) ∧
      failure? (explain Engine.mysql.grammar.kind format)
        = some (.pattern (.unsupported 'T' 3)) ∧
      failure? (compile Engine.mysql.grammar (.column "at") format)
        = some (.pattern (.unsupported 'T' 3)) ∧
      RejectedAt ['é', '\\', '\\', 'T'] 3 'T' := by
  intro format
  have valid : Engine.mysql.grammar.kind.isValid = true := rfl
  have checked : failure? (Pattern.validate format) = some (.unsupported 'T' 3) := by
    decide +kernel
  obtain ⟨verdict, hv, hp, hr, hpl, he, hc, -, characters, -⟩ :=
    one_verdict format Engine.mysql.grammar valid (.column "at") .zero
  rw [checked] at hv
  rw [← hv] at hp hr hpl he hc characters
  obtain ⟨i, hi, rejected, -⟩ := (characters _ rfl).2 'T' 3 rfl
  have place : i = 3 := by omega
  exact ⟨valid, checked, hp, hr, hpl, he, hc, place ▸ rejected⟩

end DatePattern

/-! ## Formats without backslashes -/

namespace DatePattern.Reference

/-- The text of a character that no backslash precedes. -/
def plainText (t : Moment) (c : Char) : Text := (char? t c).getD (Text.ofChar c)

theorem token_plain (t : Moment) (c : Char) (pos : Nat) :
    token t (.plain c pos) = plainText t c := by
  rw [token, Token.char_plain]
  rfl

/-- Whether a character is neither a backslash nor rejected. -/
def isPlain (c : Char) : Bool := c != '\\' && !Charset.isUnsupported c

theorem fault?_of_isPlain {c : Char} (plain : isPlain c = true) (pos : Nat) :
    Pattern.fault? (.plain c pos) = none := by
  have supported : Charset.isUnsupported c = false := by
    simpa using (Bool.and_eq_true_iff.mp plain).2
  rw [Pattern.fault?, Token.char_plain, supported, Bool.and_false]
  rfl

/-- Without backslashes, each character that is not rejected is rendered by itself. -/
theorem render_plain (t : Moment) {cs : List Char} (plain : cs.all isPlain = true) :
    render t (Text.ofChars cs) = .ok (cs.flatMap (plainText t)) := by
  have tokens : ∀ pos, (Token.ofCharsFrom pos cs).findSome? Pattern.fault? = none ∧
      (Token.ofCharsFrom pos cs).flatMap (token t) = cs.flatMap (plainText t) := by
    induction cs with
    | nil => exact fun pos => ⟨rfl, rfl⟩
    | cons c cs ih =>
      intro pos
      rw [List.all_cons, Bool.and_eq_true] at plain
      obtain ⟨accepted, texts⟩ := ih plain.2 (pos + 1)
      have bare : c ≠ '\\' := bne_iff_ne.mp (Bool.and_eq_true_iff.mp plain.1).1
      rw [Token.ofCharsFrom_plain pos bare, List.findSome?_cons, fault?_of_isPlain plain.1 pos,
        List.flatMap_cons, token_plain, texts, List.flatMap_cons]
      exact ⟨accepted, rfl⟩
  have valid : (Text.ofChars cs).isUtf8 = true := (Text.isUtf8_iff _).mpr ⟨cs, rfl⟩
  obtain ⟨accepted, texts⟩ := tokens 0
  rw [render_eq, Pattern.validate_eq valid, Token.tokenize, Text.chars_ofChars, accepted]
  exact congrArg _ texts

end DatePattern.Reference
