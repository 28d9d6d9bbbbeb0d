import DatePattern.Calendar.Moment

/-!
# Reports

The outcome of checking compiled formats against databases: a result for every format and
moment on every target.
-/

namespace DatePattern.Verify

/-- The outcome of one format at one moment on one target. -/
structure Result where
  format : Text
  instant : Moment
  sql : Text := []
  /-- The reference text. -/
  want : Text := []
  /-- The engine's text. -/
  got : Text := []
  /-- Whether the engine answered null. -/
  null : Bool := false
  /-- Why there is no answer, empty when there is one. -/
  error : Text := []
  passed : Bool := false
  deriving Repr

/-- The outcome of one target. -/
structure TargetReport where
  name : Text
  dialect : Text := []
  /-- Why the target was not reached, empty when it was. -/
  error : Text := []
  results : List Result := []
  deriving Repr

/-- The results that did not pass. -/
def TargetReport.failed (report : TargetReport) : List Result :=
  report.results.filter (!·.passed)

/-- The outcome of a run. -/
structure Report where
  runId : Text
  started : Moment
  /-- The duration in nanoseconds. -/
  duration : Int
  targets : List TargetReport
  deriving Repr

namespace Report

/-- How many results passed and how many did not. -/
def counts (report : Report) : Nat × Nat :=
  let results := report.targets.flatMap TargetReport.results
  (results.countP (·.passed), results.countP (!·.passed))

/-- Whether every target was reached and every result passed. -/
def isOk (report : Report) : Bool :=
  report.targets.all fun target => target.error.isEmpty && target.failed.isEmpty

end Report

end DatePattern.Verify
