import DatePattern.Config.Basic
import DatePattern.Verify.Render
import DatePattern.Verify.Run

/-!
# The journal of a verification

What a run logs: that it starts, what becomes of each target in order, and that it has
finished. Every line carries the run, and those on a target its name.
-/

namespace DatePattern.Verify

/-- Where an in-memory database is kept. -/
def memoryPath : Text := ":memory:"

/-- What is logged of the settings of a connection: the path of an embedded database, the
host and the name of any other. -/
def connectionDetail (g : Grammar) (settings : ConnectionSettings) : List (Text × Text) :=
  if g.kind = Engine.sqlite.kind then
    [("path", if settings.path.isEmpty then memoryPath else settings.path)]
  else [("host", settings.host), ("database", settings.database)]

/-- The lines of a target that is connected through an adapter. -/
def connectLines (config : Config) (adapters : Adapters) (own : List (Text × Text)) : Link → Text
  | .scripted .. => []
  | .adapter settings =>
    match adapters.find settings.type with
    | .error _ => []
    | .ok g =>
      config.logLine .debug ("connecting to " ++ g.name) (own ++ connectionDetail g settings)

/-- Whether a target has an adapter at all. -/
def hasAdapter (adapters : Adapters) : Link → Bool
  | .scripted .. => true
  | .adapter settings =>
    match adapters.find settings.type with
    | .ok _ => true
    | .error _ => false

/-- The lines on a target and its report. -/
def targetLines (config : Config) (adapters : Adapters) (runId : Text) (target : Target)
    (report : TargetReport) : Text :=
  let own : List (Text × Text) := [("run_id", runId), ("target", target.name)]
  let outcome :=
    if !report.error.isEmpty then
      config.logLine .warn "target unavailable" (own ++ [(("error" : Text), report.error)])
    else
      config.logLine .debug "target finished"
        (own ++ [(("failed" : Text), Decimal.ofNat report.failed.length)])
  if hasAdapter adapters target.link then connectLines config adapters own target.link ++ outcome
  else []

/-- The line on the start of a run. -/
def startLine (config : Config) (runId : Text) (targets formats instants : Nat) : Text :=
  config.logLine .info "verification started"
    [("run_id", runId), ("targets", Decimal.ofNat targets), ("formats", Decimal.ofNat formats),
      ("instants", Decimal.ofNat instants)]

/-- The line on the end of a run. -/
def finishLine (config : Config) (report : Report) : Text :=
  config.logLine .info "verification finished"
    [("run_id", report.runId), ("passed", Decimal.ofNat report.counts.1),
      ("failed", Decimal.ofNat report.counts.2), ("duration", durationText report.duration)]

/-- The journal of a run that came to a report. -/
def journal (config : Config) (adapters : Adapters) (targets : List Target) (formats : Nat)
    (report : Report) : Text :=
  startLine config report.runId targets.length formats defaultInstants.length
    ++ (targets.zip report.targets).flatMap (fun (target, own) =>
        targetLines config adapters report.runId target own)
    ++ finishLine config report

end DatePattern.Verify
