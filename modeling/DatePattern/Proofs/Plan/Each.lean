import DatePattern.Plan.Compile
import DatePattern.Proofs.Pattern.Acceptance

/-!
# One format for several dialects

Whether a format compiles does not depend on the dialect, so a list of dialects gets a result for
each of them, or the first of them reports what the check of the format reports.
-/

namespace DatePattern

section Dialects

variable {dialects : List Grammar} {format : Text}

theorem compile_of_accepted {g : Grammar} (valid : g.kind.isValid = true)
    (accepted : Pattern.validate format = .ok ()) (subject : SqlExpr) :
    ∃ sql, compile g subject format = .ok sql := by
  obtain ⟨engine, kind⟩ := Kind.eq_kind_of_isValid valid
  rw [compile, compileText_eq kind, accepted]
  exact ⟨_, rfl⟩

theorem compile_of_rejected {g : Grammar} (valid : g.kind.isValid = true) {e : PatternError}
    (rejected : Pattern.validate format = .error e) (subject : SqlExpr) :
    compile g subject format = .error (.pattern e) := by
  obtain ⟨engine, kind⟩ := Kind.eq_kind_of_isValid valid
  rw [compile, compileText_eq kind, rejected]

/-- A result is the SQL of a dialect under its name. -/
def DialectSql.Of (subject : SqlExpr) (format : Text) (g : Grammar) (result : DialectSql) : Prop :=
  result.dialect = g.name ∧ compile g subject format = .ok result.sql

/-- An accepted format has a result for each dialect, in order. -/
theorem compileEach_of_accepted (valid : ∀ g ∈ dialects, g.kind.isValid = true)
    (accepted : Pattern.validate format = .ok ()) (subject : SqlExpr) :
    ∃ results, compileEach subject format dialects = .ok results ∧
      List.Forall₂ (DialectSql.Of subject format) dialects results := by
  induction dialects with
  | nil => exact ⟨[], rfl, .nil⟩
  | cons g rest ih =>
    obtain ⟨validFirst, validRest⟩ := List.forall_mem_cons.mp valid
    obtain ⟨sql, compiled⟩ := compile_of_accepted validFirst accepted subject
    obtain ⟨results, others, of⟩ := ih validRest
    refine ⟨⟨g.name, sql⟩ :: results, ?_, .cons ⟨rfl, compiled⟩ of⟩
    rw [compileEach, compiled, others]
    rfl

/-- A rejected format fails at the first dialect. -/
theorem compileEach_of_rejected (given : dialects ≠ [])
    (valid : ∀ g ∈ dialects, g.kind.isValid = true) {e : PatternError}
    (rejected : Pattern.validate format = .error e) (subject : SqlExpr) :
    ∃ name, compileEach subject format dialects = .error ⟨name, .pattern e⟩ := by
  obtain ⟨g, rest, rfl⟩ := List.exists_cons_of_ne_nil given
  refine ⟨g.name, ?_⟩
  rw [compileEach, compile_of_rejected (valid g List.mem_cons_self) rejected]

end Dialects

end DatePattern
