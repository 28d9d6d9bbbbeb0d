import DatePattern.Connection.Settings
import DatePattern.Connection.Basic
import DatePattern.Plan.Compile
import DatePattern.Reference.Render
import DatePattern.Verify.Matches
import DatePattern.Verify.Report

/-!
# Verification runs

A run compiles every format for every target, evaluates it at every moment and compares the
answer with the reference. Targets do not share anything, so a run is one pass over each.
A target that cannot be reached is part of the report; a run only fails for want of
targets, for a format that is not accepted, or when it is cancelled before a case.
-/

namespace DatePattern.Verify

/-- What a target is reached through. -/
inductive Link where
  /-- A database with a script, which may refuse the connection. -/
  | scripted (g : Grammar) (refusal : Option Text) (script : List Outcome)
  /-- An adapter by its settings. -/
  | adapter (settings : ConnectionSettings)

/-- A named database to check against. -/
structure Target where
  name : Text
  link : Link

/-- Why a run failed. -/
inductive RunError where
  | noTargets
  /-- A format is not accepted. -/
  | badFormat (format : Text) (cause : PatternError)
  | cancelled
  deriving DecidableEq, Repr

/-- The wording of a run error. -/
def RunError.message : RunError → Text
  | .noTargets => "no verification targets configured"
  | .badFormat format cause => "invalid format " ++ format.quoted ++ ": " ++ cause.message
  | .cancelled => "context canceled"

/-- Midnight, noon, a leap day, Sundays and turns of the week year. -/
def defaultInstants : List Moment :=
  [Moment.ofClock 2024 1 5 9 4 5 0 0,
    Moment.ofClock 2023 1 1 0 30 0 0 0,
    Moment.ofClock 2024 2 29 23 59 58 0 0,
    Moment.ofClock 2024 12 30 12 0 0 0 0,
    Moment.ofClock 2021 1 3 13 7 9 0 0,
    Moment.ofClock 1999 10 10 10 10 10 0 0]

/-- The result of a format at a moment, given what its query comes to. -/
def resultOf (g : Grammar) (outcome : Outcome) (format : Text) (instant : Moment) : Result :=
  match Reference.render instant format with
  | .error e => { format, instant, error := e.message }
  | .ok want =>
    match compile g (.timestamp instant) format with
    | .error e => { format, instant, want, error := e.message }
    | .ok compiled =>
      let sql := "select " ++ compiled
      match outcome.result with
      | .error e => { format, instant, sql, want, error := e.message }
      | .ok none => { format, instant, sql, want, null := true }
      | .ok (some got) => { format, instant, sql, want, got, passed := isMatch want got }

/-- The results of cases in order, each taking the next outcome of the script. -/
def results (g : Grammar) : (script : List Outcome) → List (Text × Moment) → List Result
  | _, [] => []
  | [], (format, instant) :: rest =>
    resultOf g Outcome.exhausted format instant :: results g [] rest
  | outcome :: script, (format, instant) :: rest =>
    resultOf g outcome format instant :: results g script rest

/-- The cases of a run: every format at every moment. -/
def cases (formats : List Text) (instants : List Moment) : List (Text × Moment) :=
  formats.flatMap fun format => instants.map fun instant => (format, instant)

/-- How a target is connected: its dialect, and its script or why it cannot be reached. A
real database is only reached when nothing is cancelled, and then has no script. -/
def connect (adapters : Adapters) (cancelled : Bool) :
    Link → Text × Except Text (Grammar × List Outcome)
  | .scripted g (some refusal) _ => (g.name, .error refusal)
  | .scripted g none script => (g.name, .ok (g, script))
  | .adapter settings =>
    match adapters.find settings.type with
    | .error e => ([], .error e.message)
    | .ok g =>
      if cancelled then (g.name, .error ("failed to ping " ++ g.name ++ ": context canceled"))
      else (g.name, .ok (g, []))

/-- The report of one target. -/
def runTarget (adapters : Adapters) (cancelled : Bool) (pairs : List (Text × Moment))
    (target : Target) : Except RunError TargetReport :=
  match connect adapters cancelled target.link with
  | (dialect, .error reason) => .ok { name := target.name, dialect, error := reason }
  | (dialect, .ok (g, script)) =>
    if cancelled && !pairs.isEmpty then .error .cancelled
    else .ok { name := target.name, dialect, results := results g script pairs }

/-- Checks the formats of a run. -/
def checkFormats : List Text → Except RunError Unit
  | [] => .ok ()
  | format :: rest =>
    match Pattern.validate format with
    | .error e => .error (.badFormat format e)
    | .ok () => checkFormats rest

/-- The reports of the targets of a run; no moments stand for the default ones. -/
def run (adapters : Adapters) (targets : List Target) (formats : List Text)
    (instants : List Moment) (cancelled : Bool) : Except RunError (List TargetReport) := do
  if targets.isEmpty then throw .noTargets
  checkFormats formats
  let instants := if instants.isEmpty then defaultInstants else instants
  targets.mapM (runTarget adapters cancelled (cases formats instants))

end DatePattern.Verify
