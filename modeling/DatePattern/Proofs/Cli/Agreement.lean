import DatePattern.Cli.Run
import DatePattern.Proofs.Dialect.Names
import DatePattern.Proofs.Plan.Each
import DatePattern.Proofs.Session.Safety

/-!
# The ways to compile a format agree

A format is compiled by a command, by a line of a session and, step by step, by an explanation.
The command stops at the first dialect that fails and counts its results to know whether to name the
dialects; a session goes on after a failure and counts its dialects. They come to the same because
no format is accepted by one dialect and rejected by another.

- `Session.compileLines_of_accepted`, `Session.compileLines_of_rejected`: what a line of a session
  writes, by induction on the dialects;
- `Output.Compiled.text_eq`: what the command writes, in the same form;
- `out_of_accepted`, `out_of_rejected`: so the two write the same, which is nothing for a format
  that is rejected;
- `Output.explain_eq_ok`, `Output.explain_eq_error_iff`: an explanation is that of `plan` and
  `compile`;
- `entry_points_agree`: the three together.
-/

namespace DatePattern

/-- The line of a dialect's SQL, under a comment with its name when there are several. -/
def DialectSql.shown (several : Bool) (result : DialectSql) : Text :=
  (if several then "-- " ++ result.dialect ++ "\n" else [] : Text) ++ (result.sql ++ "\n")

/-- The SQL of each dialect is a line of what is shown. -/
theorem DialectSql.line_shown (several : Bool) {subject : SqlExpr} {format : Text}
    {dialects : List Grammar} {results : List DialectSql}
    (of : List.Forall₂ (DialectSql.Of subject format) dialects results) {g : Grammar}
    (mem : g ∈ dialects) {sql : Text} (compiled : compile g subject format = .ok sql) :
    sql ++ ("\n" : Text) <:+: results.flatMap (DialectSql.shown several) := by
  induction of with
  | nil => cases mem
  | @cons _ result _ rest first _ ih =>
    rw [List.flatMap_cons]
    rcases List.mem_cons.mp mem with rfl | later
    · -- the first result has this SQL, since compiling gives only one
      obtain rfl : sql = result.sql := Except.ok.inj (compiled.symm.trans first.2)
      refine List.IsInfix.trans ?_ (List.prefix_append ..).isInfix
      exact (List.suffix_append ..).isInfix
    · exact (ih later).trans (List.suffix_append ..).isInfix

/-! ## A session -/

/-- Off a terminal a style leaves the name of a registered dialect as it is. -/
theorem Engine.styled_name (engine : Engine) :
    Output.styled ("-- " ++ engine.name) = "-- " ++ engine.name := by
  cases engine <;> decide

namespace Session

variable {subject : SqlExpr} {format : Text} {dialects : List Grammar}

theorem compiled_eq (several : Bool) (engine : Engine) (sql : Text) :
    compiled several engine.grammar sql = DialectSql.shown several ⟨engine.name, sql⟩ := by
  rw [compiled, Engine.name_grammar, Engine.styled_name, DialectSql.shown, List.append_assoc]

/-- An accepted format is shown for each dialect, and nothing is reported. -/
theorem compileLines_of_accepted (several : Bool)
    {engines : List Engine} {results : List DialectSql}
    (of : List.Forall₂ (DialectSql.Of subject format) (engines.map Engine.grammar) results) :
    compileLines several subject format (engines.map Engine.grammar)
      = (results.flatMap (DialectSql.shown several), []) := by
  induction engines generalizing results with
  | nil =>
    cases of
    rfl
  | cons engine rest ih =>
    rcases of with _ | ⟨⟨name, compiled⟩, others⟩
    rw [Engine.name_grammar] at name
    rw [List.map_cons, compileLines, ih others, compiled, List.flatMap_cons]
    dsimp only
    rw [compiled_eq, ← name]

/-- A rejected format is shown for none. -/
theorem compileLines_of_rejected (several : Bool)
    (rejected : ∀ g ∈ dialects, ∃ e, compile g subject format = .error e) :
    (compileLines several subject format dialects).1 = [] := by
  induction dialects with
  | nil => rfl
  | cons g rest ih =>
    obtain ⟨⟨e, first⟩, others⟩ := List.forall_mem_cons.mp rejected
    rw [compileLines, first]
    exact ih others

end Session

/-! ## The command -/

namespace Output

/-- The text of a compiled format, of one dialect or of several. -/
theorem Compiled.text_eq (format subject : Text) (results : List DialectSql) :
    Compiled.text ⟨format, subject, results⟩
      = results.flatMap (DialectSql.shown (decide (1 < results.length))) := by
  match results with
  | [] => rfl
  | [single] =>
    rw [List.flatMap_singleton]
    rfl
  | first :: second :: rest =>
    have several : decide (1 < (first :: second :: rest).length) = true := by simp
    rw [several, Compiled.text]
    refine List.flatMap_congr fun result _ => ?_
    rw [DialectSql.block, DialectSql.shown, if_pos rfl, List.append_assoc]

end Output

namespace Cli.Job

variable {job : Job} {dialects : List Grammar} {format : Text}

theorem out_compile_of_accepted {results : List DialectSql}
    (selected : job.dialects = .ok dialects) (text : job.shape = .text)
    (compiled : compileEach job.subject.expr format dialects = .ok results) :
    (job.compile format).out
      = results.flatMap (DialectSql.shown (decide (1 < results.length))) := by
  rw [Job.compile, selected]
  dsimp only
  rw [compiled]
  dsimp only
  rw [text]
  exact Output.Compiled.text_eq ..

theorem out_compile_of_rejected {failure : DialectFailure}
    (selected : job.dialects = .ok dialects)
    (failed : compileEach job.subject.expr format dialects = .error failure) :
    (job.compile format).out = [] := by
  rw [Job.compile, selected]
  dsimp only
  rw [failed]

end Cli.Job

/-! ## The explanation -/

namespace Output

variable {g : Grammar} {subject : SqlExpr} {format : Text}

theorem explain_eq_ok {explained : Explained} (h : explain g subject format = .ok explained) :
    ∃ fragments, plan g.kind format = .ok fragments ∧
      compile g subject format = .ok explained.sql ∧
      explained.pieces.map Piece.sql = fragments.map (Fragment.sql g (subject.render g)) := by
  unfold explain at h
  cases steps : DatePattern.explain g.kind format with
  | error e =>
    rw [steps] at h
    cases h
  | ok explanation =>
    rw [steps] at h
    cases h
    have planned : plan g.kind format = .ok explanation.fragments := by
      rw [plan, steps]
      rfl
    refine ⟨explanation.fragments, planned, ?_, ?_⟩
    · rw [compile, compileText, planned]
      rfl
    · show (explanation.fragments.map (Piece.ofFragment g (subject.render g))).map Piece.sql = _
      rw [List.map_map]
      rfl

theorem explain_eq_error_iff (e : CompileError) :
    explain g subject format = .error e ↔ compile g subject format = .error e := by
  rw [compile, compileText, plan, explain]
  cases DatePattern.explain g.kind format with
  | error fault =>
    -- both pass the fault on
    show Except.error fault = .error e ↔ Except.error fault = .error e
    rw [Except.error.injEq, Except.error.injEq]
  | ok explanation =>
    constructor
    · intro h
      cases h
    · intro h
      cases h

end Output

/-! ## All of them -/

section Engines

variable {engines : List Engine} {job : Cli.Job} {line : Text}

theorem Engine.isValid_of_mem : ∀ g ∈ engines.map Engine.grammar, g.kind.isValid = true := by
  intro g mem
  obtain ⟨engine, -, rfl⟩ := List.mem_map.mp mem
  exact engine.isValid_grammar

/-- A command and a session write the same for an accepted format. The command counts its
results and the session its dialects, of which there are as many. -/
theorem out_of_accepted (accepted : Pattern.validate line = .ok ())
    (selected : job.dialects = .ok (engines.map Engine.grammar)) (text : job.shape = .text) :
    let turn := Session.format ⟨engines.map Engine.grammar, job.subject⟩ line
    (job.compile line).out = turn.out ∧
    ∀ g ∈ engines.map Engine.grammar, ∀ sql, compile g job.subject.expr line = .ok sql →
      sql ++ ("\n" : Text) <:+: turn.out := by
  obtain ⟨results, compiled, of⟩ :=
    compileEach_of_accepted Engine.isValid_of_mem accepted job.subject.expr
  rw [Session.format, Session.compileLines_of_accepted _ of, of.length_eq,
    Cli.Job.out_compile_of_accepted selected text compiled]
  exact ⟨rfl, fun g mem sql one => DialectSql.line_shown _ of mem one⟩

/-- Neither writes anything for a rejected format, though the session goes on after the first
dialect. -/
theorem out_of_rejected {e : PatternError} (rejected : Pattern.validate line = .error e)
    (given : engines.map Engine.grammar ≠ [])
    (selected : job.dialects = .ok (engines.map Engine.grammar)) :
    (job.compile line).out = [] ∧
    (Session.format ⟨engines.map Engine.grammar, job.subject⟩ line).out = [] := by
  obtain ⟨name, failed⟩ :=
    compileEach_of_rejected given Engine.isValid_of_mem rejected job.subject.expr
  refine ⟨Cli.Job.out_compile_of_rejected selected failed, ?_⟩
  refine Session.compileLines_of_rejected _ fun g mem => ?_
  exact ⟨_, compile_of_rejected (Engine.isValid_of_mem g mem) rejected _⟩

end Engines

/-- **The ways to compile a format agree.** Take distinct registered dialects, at least one, a
subject, and a line that is not blank and whose first character that is no white space is not a
dot. The dialects are what a command selects by their names. When one of them accepts the line as a
format, the command, writing text, and a session on these dialects and this subject write the same,
with the SQL of the dialect in it; when one rejects it, neither writes anything. For the first
dialect, an explanation shows the SQL that compiling gives and the SQL of each fragment of the
plan, in order, and it fails exactly when compiling does, with the same error. -/
theorem entry_points_agree (registry : Registry) (dialects : List Grammar) (given : dialects ≠ [])
    (distinct : dialects.Nodup)
    (registered : ∀ g ∈ dialects, ∃ name, Registry.standard.get? name = some g)
    (subject : Subject) (line : Text) (notBlank : line.trim ≠ [])
    (noDot : line.trim.head? ≠ some 0x2E) :
    let turn := Session.handle ⟨dialects, subject⟩ registry line
    Registry.standard.select (dialects.map Grammar.name) = .ok dialects ∧
    (∀ job : Cli.Job, job.dialects = .ok dialects → job.subject = subject → job.shape = .text →
      ∀ g ∈ dialects,
        (∀ sql, compile g subject.expr line = .ok sql →
          (job.compile line).out = turn.out ∧ sql ++ ("\n" : Text) <:+: turn.out) ∧
        ∀ e, compile g subject.expr line = .error e →
          (job.compile line).out = [] ∧ turn.out = []) ∧
    ∀ g, dialects.head? = some g →
      (∀ explained, Output.explain g subject.expr line = .ok explained →
        ∃ fragments, plan g.kind line = .ok fragments ∧
          compile g subject.expr line = .ok explained.sql ∧
          explained.pieces.map Output.Piece.sql
            = fragments.map (Fragment.sql g (subject.expr.render g))) ∧
      ∀ e, Output.explain g subject.expr line = .error e ↔
        compile g subject.expr line = .error e := by
  intro turn
  obtain ⟨engines, rfl⟩ := Registry.exists_engines registered
  have asFormat : turn = Session.format ⟨engines.map Engine.grammar, subject⟩ line :=
    (Session.handle_of_not_dot noDot).trans (if_neg notBlank)
  refine ⟨?_, ?_, fun g _ => ⟨fun _ => Output.explain_eq_ok, Output.explain_eq_error_iff⟩⟩
  · have names : (engines.map Engine.grammar).map Grammar.name = engines.map Engine.name := by
      rw [List.map_map]
      exact List.map_congr_left fun engine _ => engine.name_grammar
    rw [names]
    exact Registry.select_names (mt List.map_eq_nil_iff.mpr given) (List.Nodup.of_map _ distinct)
  · rintro job selected rfl text g mem
    have valid := Engine.isValid_of_mem g mem
    rw [asFormat]
    -- one check of the line decides for all the dialects
    cases checked : Pattern.validate line with
    | ok u =>
      obtain ⟨same, shown⟩ := out_of_accepted checked selected text
      refine ⟨fun sql compiled => ⟨same, shown g mem sql compiled⟩, fun e failed => ?_⟩
      obtain ⟨sql, compiled⟩ := compile_of_accepted valid checked job.subject.expr
      cases compiled.symm.trans failed
    | error fault =>
      refine ⟨fun sql compiled => ?_, fun _ _ => out_of_rejected checked given selected⟩
      have failed := compile_of_rejected valid checked job.subject.expr
      cases compiled.symm.trans failed

/-- Two dialects, a column, and a format that starts with a blank. -/
theorem entry_points_agree_example :
    let dialects := [Engine.mysql.grammar, Engine.sqlite.grammar]
    let subject := Subject.column "at"
    let line : Text := " Y-m"
    let job : Cli.Job :=
      ⟨{},
        { Config.default with
          dialects := ["mysql", "sqlite"]
          column := "at"
          output := "text" },
        {}⟩
    let turn := Session.handle ⟨dialects, subject⟩ Registry.standard line
    dialects ≠ [] ∧ dialects.Nodup ∧
    (∀ g ∈ dialects, ∃ name, Registry.standard.get? name = some g) ∧
    line.trim ≠ [] ∧ line.trim.head? ≠ some 0x2E ∧
    job.dialects = .ok dialects ∧ job.subject = subject ∧ job.shape = .text ∧
    (job.compile line).out = turn.out ∧
    ("date_format(`at`, ' %Y-%m')\n" : Text) <:+: turn.out := by
  intro dialects subject line job turn
  have given : dialects ≠ [] := by decide
  have distinct : dialects.Nodup := by decide
  have registered : ∀ g ∈ dialects, ∃ name, Registry.standard.get? name = some g := by
    exact List.forall_mem_cons.mpr ⟨⟨"mysql", rfl⟩, List.forall_mem_singleton.mpr ⟨"sqlite", rfl⟩⟩
  have notBlank : line.trim ≠ [] := by decide
  have noDot : line.trim.head? ≠ some 0x2E := by decide
  have selected : job.dialects = .ok dialects := by rfl
  have text : job.shape = .text := by rfl
  have compiled : compile Engine.mysql.grammar subject.expr line
      = .ok "date_format(`at`, ' %Y-%m')" := by rfl
  obtain ⟨-, written, -⟩ :=
    entry_points_agree Registry.standard dialects given distinct registered subject line
      notBlank noDot
  obtain ⟨same, shown⟩ :=
    (written job selected rfl text Engine.mysql.grammar List.mem_cons_self).1 _ compiled
  exact ⟨given, distinct, registered, notBlank, noDot, selected, rfl, text, same, shown⟩

end DatePattern
