import DatePattern.Connection.Basic
import Mathlib.Tactic

/-!
# The life of a connection

A connection is opened, queried, closed and opened again, in any order. What it answers depends
only on the last opening and on what came after that:

- `Connection.database?_step`: what one step does to the database that is there, the only place
  where the operations are opened up;
- `Connection.database?_foldl`: behind an opening, a run without another one uses up the script
  query by query until it is closed;
- `Connection.opening_cases`: every run has no opening, or a last one, and so a connection has
  never had a database, has closed the last one, or answers from its script.

Closing does not take the database away. A connection counts as connected from its first opening
on, and a closed one can be told apart only by what its queries come to.
-/

namespace DatePattern

namespace Connection

/-- What can be done with a connection. -/
inductive Step where
  /-- A database is connected that answers from a script. -/
  | connect (script : List Outcome)
  | query (sql : Text)
  | close
  | dropLog

namespace Step

def isConnect : Step → Bool
  | .connect _ => true
  | _ => false

def isQuery : Step → Bool
  | .query _ => true
  | _ => false

def isClose : Step → Bool
  | .close => true
  | _ => false

end Step

/-- The connection after a step. -/
def step (c : Connection) : Step → Connection
  | .connect script => c.openWith script
  | .query sql => (c.query sql).1
  | .close => c.close.1
  | .dropLog => c.dropLog

/-- A new connection after steps. -/
def after (steps : List Step) : Connection := steps.foldl step {}

/-- Some opening has no closing behind it. -/
def LeftOpen (steps : List Step) : Prop :=
  ∃ before script later, steps = before ++ Step.connect script :: later ∧ Step.close ∉ later

end Connection

open Connection (Step)

/-- A database after a step that does not replace it: a query takes one outcome, unless the
database is closed. -/
def Database.next (database : Database) (s : Step) : Database where
  script := if s.isQuery && !database.closed then database.script.tail else database.script
  closed := database.closed || s.isClose

namespace Connection

/-! ## One step -/

/-- **One step.** Only an opening brings a database; any other step uses the one there is. -/
theorem database?_step {s : Step} (h : s.isConnect = false) (c : Connection) :
    (c.step s).database? = c.database?.map (·.next s) := by
  obtain ⟨database?, logging⟩ := c
  cases s with
  | connect script => exact Bool.noConfusion h
  | dropLog => cases database? <;> simp [step, dropLog, Database.next, Step.isQuery, Step.isClose]
  | close =>
    cases database? <;> simp [step, close, Database.next, Step.isQuery, Step.isClose]
  | query sql =>
    -- a closed database is left alone, and an open one gives its next outcome, if it has any
    rcases database? with _ | ⟨_ | ⟨outcome, rest⟩, _ | _⟩ <;> rfl

/-! ## Runs without an opening -/

section Runs

variable {steps before later : List Step} {script : List Outcome}

theorem isConnect_iff (s : Step) : s.isConnect = true ↔ ∃ script, s = .connect script := by
  cases s <;> simp [Step.isConnect]

theorem isClose_iff (s : Step) : s.isClose = true ↔ s = .close := by
  cases s <;> simp [Step.isClose]

/-- A run without an opening goes through the database that is there, step by step. -/
theorem database?_foldl (none : ∀ script, Step.connect script ∉ later) (c : Connection) :
    (later.foldl step c).database? = c.database?.map (later.foldl Database.next ·) := by
  induction later generalizing c with
  | nil => simp
  | cons s later ih =>
    have other : s.isConnect = false := by
      rw [Bool.eq_false_iff]
      intro connects
      obtain ⟨script, rfl⟩ := (isConnect_iff s).mp connects
      exact none script List.mem_cons_self
    have others : ∀ script, Step.connect script ∉ later :=
      fun script mem => none script (List.mem_cons_of_mem s mem)
    rw [List.foldl_cons, ih others, database?_step other, Option.map_map]
    rfl

theorem closed_foldl (database : Database) (later : List Step) :
    (later.foldl Database.next database).closed = true ↔
      database.closed = true ∨ Step.close ∈ later := by
  induction later generalizing database with
  | nil => simp
  | cons s later ih =>
    rw [List.foldl_cons, ih, Database.next, Bool.or_eq_true, isClose_iff, List.mem_cons, or_assoc,
      @eq_comm Step s]

/-- As long as nothing closes it, a database gives one outcome to each query. -/
theorem script_foldl {database : Database} (opened : database.closed = false)
    (unclosed : Step.close ∉ later) :
    (later.foldl Database.next database).script =
      database.script.drop (later.countP Step.isQuery) := by
  induction later generalizing database with
  | nil => rfl
  | cons s later ih =>
    rw [List.mem_cons, not_or] at unclosed
    obtain ⟨first, rest⟩ := unclosed
    have still : (database.next s).closed = false := by
      rw [Database.next, opened, Bool.false_or, Bool.eq_false_iff]
      exact fun closes => first ((isClose_iff s).mp closes).symm
    rw [List.foldl_cons, ih still rest, Database.next, opened, List.countP_cons]
    cases s.isQuery <;> simp

/-! ## The last opening -/

/-- Every run has no opening, or a last one. -/
theorem opening_cases (steps : List Step) :
    (∀ script, Step.connect script ∉ steps) ∨
    ∃ before script later, steps = before ++ Step.connect script :: later ∧
      ∀ other, Step.connect other ∉ later := by
  induction steps with
  | nil => exact .inl fun _ => List.not_mem_nil
  | cons s steps ih =>
    rcases ih with none | ⟨before, script, later, rfl, last⟩
    · by_cases connects : s.isConnect = true
      · obtain ⟨script, rfl⟩ := (isConnect_iff s).mp connects
        exact .inr ⟨[], script, steps, rfl, none⟩
      · refine .inl fun script mem => ?_
        rcases List.mem_cons.mp mem with rfl | later
        · exact connects rfl
        · exact none script later
    · exact .inr ⟨s :: before, script, later, rfl, last⟩

theorem database?_of_never (none : ∀ script, Step.connect script ∉ steps) :
    (after steps).database? = .none := database?_foldl none {}

theorem database?_of_last (before : List Step) (script : List Outcome)
    (last : ∀ other, Step.connect other ∉ later) :
    (after (before ++ .connect script :: later)).database? =
      some (later.foldl Database.next { script }) := by
  rw [after, List.foldl_append, List.foldl_cons, database?_foldl last]
  rfl

/-- Whether some opening is not closed is decided by the last one. -/
theorem leftOpen_iff_of_last (before : List Step) (script : List Outcome)
    (last : ∀ other, Step.connect other ∉ later) :
    LeftOpen (before ++ .connect script :: later) ↔ Step.close ∉ later := by
  constructor
  · rintro ⟨front, other, rest, same, unclosed⟩ closed
    rcases List.append_eq_append_iff.mp same with ⟨between, -, tail⟩ | ⟨between, -, tail⟩
    · -- the other opening stands behind the last one, so it is the last one
      cases between with
      | nil =>
        obtain ⟨-, rfl⟩ := List.cons.inj tail
        exact unclosed closed
      | cons s between =>
        obtain ⟨-, rfl⟩ := List.cons.inj tail
        exact last other (List.mem_append_right between List.mem_cons_self)
    · -- it stands before the last one, so what closed the last one closed it too
      cases between with
      | nil =>
        obtain ⟨-, rfl⟩ := List.cons.inj tail
        exact unclosed closed
      | cons s between =>
        obtain ⟨-, rfl⟩ := List.cons.inj tail
        exact unclosed (List.mem_append_right between (List.mem_cons_of_mem _ closed))
  · exact fun unclosed => ⟨before, script, later, rfl, unclosed⟩

end Runs

/-! ## Queries -/

theorem query_of_none {c : Connection} (h : c.database? = none) (sql : Text) :
    c.query sql = (c, [], .error .notConnected) := by
  rw [query, h]

theorem query_of_closed {c : Connection} {database : Database} (h : c.database? = some database)
    (closed : database.closed = true) (sql : Text) :
    (c.query sql).2.2 = .error (.failed "sql: database is closed") := by
  rw [query, h]
  simp [closed]

theorem query_of_open {c : Connection} {database : Database} (h : c.database? = some database)
    (opened : database.closed = false) (sql : Text) :
    (c.query sql).2.2 = (database.script.headD .exhausted).result := by
  obtain ⟨script, closed⟩ := database
  cases opened
  rw [query, h]
  cases script <;> rfl

/-- **A connection answers by its last opening.** Whatever was done with it, it counts as
connected exactly when it was ever opened. If it was not, a query changes and logs nothing and
says so. If it was and no opening is left open, every query is refused by the closed database;
otherwise the last opening's script answers, one outcome for each query since. -/
theorem connected_from_first_opening (steps : List Step) (sql : Text) :
    ((after steps).isConnected = true ↔ ∃ script, Step.connect script ∈ steps) ∧
    ((after steps).isConnected = false →
      (after steps).query sql = (after steps, [], .error .notConnected)) ∧
    ((after steps).isConnected = true → ¬LeftOpen steps →
      ((after steps).query sql).2.2 = .error (.failed "sql: database is closed")) ∧
    ∀ before script later, steps = before ++ .connect script :: later →
      (∀ other, Step.connect other ∉ later) → Step.close ∉ later →
      ((after steps).query sql).2.2 =
        ((script.drop (later.countP Step.isQuery)).headD .exhausted).result := by
  rcases opening_cases steps with none | ⟨before, script, later, rfl, last⟩
  · have empty := database?_of_never none
    have unconnected : (after steps).isConnected = false := by rw [isConnected, empty]; rfl
    refine ⟨?_, fun _ => query_of_none empty sql, fun connected => ?_, ?_⟩
    · rw [unconnected]
      exact ⟨fun h => Bool.noConfusion h, fun ⟨script, mem⟩ => absurd mem (none script)⟩
    · rw [unconnected] at connected
      exact Bool.noConfusion connected
    · rintro before script later rfl - -
      exact absurd (List.mem_append_right before List.mem_cons_self) (none script)
  · have there := database?_of_last before script last
    have connected : (after (before ++ .connect script :: later)).isConnected = true := by
      rw [isConnected, there]
      rfl
    refine ⟨?_, fun unconnected => ?_, fun _ closed => ?_, ?_⟩
    · exact ⟨fun _ => ⟨script, List.mem_append_right before List.mem_cons_self⟩, fun _ => connected⟩
    · rw [connected] at unconnected
      exact Bool.noConfusion unconnected
    · rw [leftOpen_iff_of_last before script last, not_not] at closed
      exact query_of_closed there ((closed_foldl _ later).mpr (.inr closed)) sql
    · -- any other way to name the last opening gives the same database
      intro front other rest same final unclosed
      rw [same]
      have opened : ¬(rest.foldl Database.next { script := other }).closed = true := by
        rw [closed_foldl]
        rintro (h | h)
        · exact Bool.noConfusion h
        · exact unclosed h
      rw [query_of_open (database?_of_last front other final) (Bool.eq_false_iff.mpr opened) sql,
        script_foldl rfl unclosed]

/-- A new connection, one that was closed, and one that was opened again and has answered once. -/
theorem connected_from_first_opening_example :
    (after []).query "SELECT 1" = (after [], [], .error .notConnected) ∧
    ((after [.connect [.noRows], .close]).query "SELECT 1").2.2 =
      .error (.failed "sql: database is closed") ∧
    ((after [.connect [], .close, .connect [.noRows, .refused "late"], .query "SELECT 1"]).query
      "SELECT 2").2.2 = .error (.failed "late") := by
  have last : ∀ other, Step.connect other ∉ [Step.close] := by simp
  have shut : ¬LeftOpen [.connect [.noRows], .close] := fun opened =>
    (leftOpen_iff_of_last [] [.noRows] last).mp opened List.mem_cons_self
  refine ⟨(connected_from_first_opening _ _).2.1 rfl,
    (connected_from_first_opening _ _).2.2.1 rfl shut, ?_⟩
  exact (connected_from_first_opening _ _).2.2.2 [.connect [], .close] [.noRows, .refused "late"]
    [.query "SELECT 1"] rfl (by simp) (by simp)

/-- Being connected is not having an opening left open: a connection that was opened and closed
counts as connected. -/
theorem connected_though_closed :
    ¬((after [.connect [], .close]).isConnected = true ↔ LeftOpen [.connect [], .close]) := by
  intro same
  have none : ∀ other, Step.connect other ∉ [Step.close] := by simp
  have unclosed := (leftOpen_iff_of_last [] [] none).mp (same.mp rfl)
  exact unclosed List.mem_cons_self

end Connection

end DatePattern
