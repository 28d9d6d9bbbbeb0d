import DatePattern.Proofs.Plan.Stages
import DatePattern.Proofs.Recipe.Pieces
import DatePattern.Proofs.Sql.Sealed

/-!
# Compiled formats keep their text in quotes

A compiled format puts the SQL of its subject into templates, syntheses and calls of the
engine's date function, several of them concatenated. Each leaves the scan where it was, so
date formats may be nested in expressions and expressions in date formats; and each is an
operand, whatever passing SQL its subject is:

- `Scan.threads`: a decidable check of the pieces of a template, run once for each table;
- `Recipe.operand_sql`, `Fragment.operand_sql`, `operand_compileText`: the parts of a compiled
  format.

So an expression with user text of any bytes is scanned to its end outside quotes, with its
parentheses closed and no comment opened.
-/

namespace DatePattern

/-! ## Templates -/

namespace Scan

variable {lex : Lexicon}

/-- Whether pieces, scanned one after the other with passing text before each, belong to one
word that comes out with all parentheses closed. The text before a piece stands in
parentheses. -/
def threads (lex : Lexicon) : (depth : Nat) → List Text → Bool
  | depth, [] => depth == 0
  | 0, _ :: _ => false
  | depth + 1, piece :: rest =>
    lex.detaches piece &&
      match piece.foldlM (solidStep lex) ⟨.outside, depth + 1⟩ with
      | some ⟨.outside, after⟩ => threads lex after rest
      | _ => false

theorem solid_threads {subject : Text} (h : Passes lex subject) {depth : Nat}
    {pieces : List Text} (threaded : threads lex depth pieces = true) :
    Solid lex .fresh depth (pieces.flatMap fun piece => subject ++ piece) .settled 0 := by
  induction pieces generalizing depth with
  | nil =>
    rw [threads, beq_iff_eq] at threaded
    exact threaded ▸ Triple.nil.settle
  | cons piece rest ih =>
    cases depth with
    | zero => cases threaded
    | succ depth =>
      rw [threads, Bool.and_eq_true] at threaded
      obtain ⟨detached, threaded⟩ := threaded
      split at threaded
      · next after ran =>
        have front := (h.solid depth).append (Solid.ofFold_detached detached ran)
        exact front.append (ih threaded)
      · cases threaded

end Scan

/-- Whether a template is an operand around every subject that passes: its first piece opens a
parenthesis, and the others thread from there. -/
def Template.isSealed (lex : Scan.Lexicon) (template : Template) : Bool :=
  match template.pieces with
  | [] => false
  | first :: rest =>
    first.contains 0x28 &&
      match first.foldlM (Scan.solidStep lex) ⟨.outside, 0⟩ with
      | some ⟨.outside, depth⟩ => Scan.threads lex depth rest
      | _ => false

theorem Template.operand_render {engine : Engine} {template : Template}
    (h : template.isSealed engine.lexicon = true) {subject : Text}
    (passes : Scan.Passes engine.lexicon subject) :
    Scan.IsOperand engine (template.render subject) := by
  rw [isSealed] at h
  split at h
  · cases h
  · next first rest cut =>
    rw [Bool.and_eq_true, List.contains_iff_mem] at h
    obtain ⟨opens, h⟩ := h
    split at h
    · next depth ran =>
      rw [Template.render_eq, cut, Text.joinWith_cons]
      have solid := (Scan.Triple.ofFold ran).append (Scan.solid_threads passes h)
      exact .ofMem (List.mem_append_left _ opens) rfl solid
    · cases h

/-! ## Recipes -/

/-- Every expression that a synthesis builds is admitted when its subject is. -/
theorem Synthesis.admitted_build {F : Type} {trusted : Text → Prop} {subject : Expr F}
    (hs : subject.Admitted trusted) (hour : trusted "hour") (synthesis : Synthesis) :
    (synthesis.build subject).Admitted trusted := by
  have call : ∀ specifier, (strftime specifier subject).Admitted trusted :=
    fun specifier => ⟨rfl, trivial, hs, trivial⟩
  cases synthesis with
  | hourMeridiem am pm =>
    exact ⟨⟨⟨rfl, ⟨rfl, hs, trivial⟩, trivial⟩, trivial, trivial⟩, trivial⟩
  | partMeridiem am pm =>
    exact ⟨⟨⟨rfl, ⟨rfl, hour, hs, trivial⟩, trivial⟩, trivial, trivial⟩, trivial⟩
  | clockMeridiem am pm =>
    exact ⟨⟨⟨rfl, call "%H", trivial⟩, trivial, trivial⟩, trivial⟩
  | named specifier names =>
    refine ⟨?_, trivial⟩
    induction names with
    | nil => trivial
    | cons entry rest ih => exact ⟨⟨rfl, call specifier, trivial⟩, trivial, ih⟩
  | unpadded specifier => exact call specifier
  | hourOfTwelve =>
    exact ⟨⟨⟨rfl, call "%H", trivial⟩, trivial, ⟨rfl, call "%H", trivial⟩,
      ⟨rfl, call "%H", trivial⟩, trivial⟩, call "%H"⟩
  | paddedHourOfTwelve =>
    exact ⟨⟨⟨⟨rfl, call "%H", trivial⟩, ⟨rfl, call "%H", trivial⟩, trivial⟩, call "%H",
      ⟨rfl, call "%H", trivial⟩, trivial, trivial⟩, rfl, trivial,
      ⟨rfl, call "%H", trivial⟩, trivial⟩

theorem Synthesis.operand_sql {engine : Engine} {subject : Text}
    (passes : Scan.Passes engine.lexicon subject) (synthesis : Synthesis) :
    Scan.IsOperand engine (synthesis.sql engine.grammar subject) := by
  have hour : Scan.Passes engine.lexicon "hour" :=
    (Scan.moves_inert engine rfl 0).settle
  have trusted : (.raw subject : Expr Empty).Admitted (Scan.Passes engine.lexicon) := passes
  have built : ∀ sql, synthesis.build (.raw subject : Expr Empty) ≠ .raw sql := by
    intro sql equal
    cases synthesis <;> cases equal
  refine (Expr.shape_text (fun _ trusted => trusted) (fun impossible => nomatch impossible) _
    (synthesis.admitted_build trusted hour)).isOperand ?_ fun impossible => nomatch impossible
  exact fun sql equal => absurd equal (built sql)

/-- Whether the templates of a capability are sealed. -/
def Capability.isSealed (lex : Scan.Lexicon) : Capability → Bool
  | .emulated (.template template) => template.isSealed lex
  | _ => true

/-- Every template of every table is sealed under the rules of its engine. -/
theorem Engine.isSealed_table (engine : Engine) :
    ∀ entry ∈ engine.table, entry.2.isSealed engine.lexicon = true := by
  cases engine <;> decide +kernel

theorem Recipe.operand_sql {engine : Engine} {c : Char} {recipe : Recipe}
    (listed : engine.capability? c = some (.emulated recipe)) {subject : Text}
    (passes : Scan.Passes engine.lexicon subject) :
    Scan.IsOperand engine (recipe.sql engine.grammar subject) := by
  have mem := Engine.mem_table_of_capability? listed
  cases recipe with
  | template template => exact Template.operand_render (engine.isSealed_table _ mem) passes
  | synthesis synthesis => exact synthesis.operand_sql passes

/-! ## Fragments -/

/-- A call of the date function is an operand, whatever stands in its format. -/
theorem Fragment.operand_nativeCall {engine : Engine} {subject : Text}
    (passes : Scan.Passes engine.lexicon subject) (format : Text) :
    Scan.IsOperand engine (nativeCall engine.grammar subject format) := by
  have first := passes.solid 0
  have quoted := Scan.solid_string engine format 1
  have comma : Scan.Solid engine.lexicon .settled 1 ", " .fresh 1 :=
    Scan.solid_between engine (by decide) rfl 0
  have close := Scan.solid_close engine 0
  cases engine with
  | mysql =>
    have opened : Scan.Solid Engine.mysql.lexicon .fresh 0 "date_format(" .fresh 1 :=
      Scan.Triple.ofFold rfl
    exact .ofClosed rfl ((((opened.append first).append comma).append quoted).append close).settle
  | sqlite =>
    have opened : Scan.Solid Engine.sqlite.lexicon .fresh 0 "strftime(" .fresh 1 :=
      Scan.Triple.ofFold rfl
    exact .ofClosed rfl ((((opened.append quoted).append comma).append first).append close).settle
  | postgres =>
    have opened : Scan.Solid Engine.postgres.lexicon .fresh 0 "to_char(" .fresh 1 :=
      Scan.Triple.ofFold rfl
    exact .ofClosed rfl ((((opened.append first).append comma).append quoted).append close).settle
  | sqlserver =>
    have opened : Scan.Solid Engine.sqlserver.lexicon .fresh 0 "format(" .fresh 1 :=
      Scan.Triple.ofFold rfl
    exact .ofClosed rfl ((((opened.append first).append comma).append quoted).append close).settle

theorem Fragment.operand_sql {engine : Engine} {subject : Text}
    (passes : Scan.Passes engine.lexicon subject) {tokens : List Token} {fragment : Fragment}
    (group : GroupOf (tokens.map (Resolution.decided engine)) fragment) :
    Scan.IsOperand engine (fragment.sql engine.grammar subject) := by
  rcases sql_cases group with ⟨c, recipe, listed, sql⟩ | ⟨-, sql⟩
  · rw [sql]
    exact Recipe.operand_sql listed passes
  · rw [sql]
    exact operand_nativeCall passes _

theorem operand_emit {engine : Engine} {subject : Text} {fragments : List Fragment}
    (h : ∀ fragment ∈ fragments, Scan.IsOperand engine (fragment.sql engine.grammar subject)) :
    Scan.IsOperand engine (emit engine.grammar subject fragments) := by
  have kind : engine.grammar.kind = engine.kind := by cases engine <;> rfl
  have each : ∀ text ∈ fragments.map (Fragment.sql engine.grammar subject),
      Scan.IsOperand engine text := by
    intro text mem
    obtain ⟨fragment, listed, rfl⟩ := List.mem_map.mp mem
    exact h fragment listed
  rw [emit]
  split
  · exact Scan.operand_string engine []
  · next single one =>
    rw [one] at each
    exact each single List.mem_cons_self
  · rw [kind]
    exact Scan.operand_concat fun text mem => (each text mem).passes

/-- Compiling an accepted format around SQL that passes gives an operand. -/
theorem operand_compileText {engine : Engine} {subject format : Text}
    (accepted : Pattern.validate format = .ok ())
    (passes : Scan.Passes engine.lexicon subject) :
    ∃ sql, compileText engine.grammar subject format = .ok sql ∧ Scan.IsOperand engine sql := by
  have kind : engine.grammar.kind = engine.kind := by cases engine <;> rfl
  refine ⟨_, by rw [compileText_eq kind, accepted], operand_emit fun fragment mem => ?_⟩
  exact Fragment.operand_sql passes (Fragment.groupOf_coalesce _ fragment mem)

theorem passes_compileText {engine : Engine} {subject format : Text}
    (accepted : Pattern.validate format = .ok ())
    (passes : Scan.Passes engine.lexicon subject) :
    ∃ sql, compileText engine.grammar subject format = .ok sql ∧
      Scan.Passes engine.lexicon sql := by
  obtain ⟨sql, compiled, operand⟩ := operand_compileText accepted passes
  exact ⟨sql, compiled, operand.passes⟩

/-! ## Expressions with date formats -/

/-- The SQL of an expression is an operand, if the SQL that is taken over into it is. -/
theorem Expr.operand_render {engine : Engine} (e : SqlExpr)
    (admitted : e.Admitted (Scan.IsOperand engine)) :
    Scan.IsOperand engine (e.render engine.grammar) := by
  refine Expr.operand_text (fun _ operand => operand) ?_ e admitted
  intro pattern subject passes
  obtain ⟨sql, compiled, operand⟩ := operand_compileText pattern.accepted passes
  rw [compiled]
  exact operand

/-- **No user text escapes its quotes.** On every engine an expression without trusted SQL has
SQL that, scanned by the rules of the engine, ends outside strings and identifiers with every
parenthesis closed, closes none that it did not open and opens no comment. -/
theorem sql_sealed (engine : Engine) (e : SqlExpr) (admitted : e.Admitted fun _ => False) :
    ∃ sql, e.sql engine.grammar = .ok sql ∧ Scan.Sealed engine.lexicon sql := by
  have valid : engine.grammar.kind.isValid = true := by cases engine <;> rfl
  refine ⟨e.render engine.grammar, by rw [Expr.sql, valid]; simp, ?_⟩
  refine (Expr.passes_text (fun _ impossible => impossible.elim) ?_ e admitted).sealed
  intro pattern subject passes
  obtain ⟨sql, compiled, passes⟩ := passes_compileText pattern.accepted passes
  rw [compiled]
  exact passes

/-- Quotes of every kind, a backslash and comment openings in a name, a value and a format. -/
theorem sql_sealed_example :
    let e : SqlExpr := .call "coalesce"
      [.column "a`]\"'--.b", .binary .sub (.value "\\'; /* ") (.number (.finite true 1 0)),
        .formatted (.column "at") ⟨"D '' -- \"`] \\\\", by decide +kernel⟩]
    e.Admitted (fun _ => False) ∧ ∀ engine : Engine,
      ∃ sql, e.sql engine.grammar = .ok sql ∧ Scan.Sealed engine.lexicon sql := by
  intro e
  have admitted : e.Admitted fun _ => False :=
    ⟨rfl, trivial, ⟨rfl, trivial, trivial⟩, trivial, trivial⟩
  exact ⟨admitted, fun engine => sql_sealed engine e admitted⟩

end DatePattern
