import DatePattern.Cli.Catalog
import DatePattern.Cli.Failure
import DatePattern.Cli.Route
import DatePattern.Config.Load
import DatePattern.Output.Matrix
import DatePattern.Session.Basic
import DatePattern.Verify.Journal

/-!
# Running the program

A command line is run in three steps: its command is found, its flags and words are read,
and, once the settings are loaded, the command is carried out. The result is a `Reply`: what
is written, what is reported beside it, and why the program failed if it did.

- `runAction`: carries out an action with its settings
- `runAlone`: a single command with the default settings
- `run`: the whole program
-/

namespace DatePattern.Cli

/-- What the program finds around it. -/
structure Surroundings where
  directory : Directory := ⟨[]⟩
  environment : Environment := []
  /-- Whether the program was told to stop before it began. -/
  cancelled : Bool := false
  /-- Whether what it writes goes to a terminal. -/
  terminal : Bool := false
  /-- The name of a verification run. -/
  runId : Text := []
  /-- When a verification run starts. -/
  started : Moment := Moment.ofClock 1970 1 1 0 0 0 0 0
  /-- How long a verification run takes, in nanoseconds. -/
  duration : Int := 0
  /-- The tool that the program was built with. -/
  builder : Text := []

/-- What the program comes to. -/
structure Reply where
  out : Text := []
  err : Text := []
  failure? : Option Failure := none
  /-- The session that is to be held. -/
  session? : Option Session := none

/-- A reply that is only a failure. -/
def Reply.failed (failure : Failure) : Reply := { failure? := some failure }

/-- A reply with more reported before it. -/
def Reply.after (reply : Reply) (err : Text) : Reply := { reply with err := err ++ reply.err }

/-- A command that is ready to be carried out. -/
structure Job where
  surroundings : Surroundings
  config : Config
  arguments : Arguments

namespace Job

/-- The shape of what is written: the mode that was asked for, else that of the settings. -/
def shape (job : Job) : Output.Shape :=
  let mode : Output.Mode := ⟨job.arguments.textOr "output" job.config.output⟩
  (mode.effective job.surroundings.terminal).shape

/-- The dialects that were asked for, else those of the settings. -/
def dialects (job : Job) : Except DialectError (List Grammar) :=
  Registry.standard.select <|
    if job.arguments.isSet "dialect" then job.arguments.texts "dialect" else job.config.dialects

/-- The column that was asked for, else that of the settings. -/
def column (job : Job) : Text := job.arguments.textOr "column" job.config.column

/-- The subject: a piece of SQL that was asked for, else a column. -/
def subject (job : Job) : Subject :=
  let sql := job.arguments.textOr "expr" []
  if sql.isEmpty then .column job.column else .raw sql

/-! ### Actions -/

/-- Shows the version. -/
def version (job : Job) : Reply where
  out :=
    "datefmt v" ++ programVersion ++ "\nPHP date() formats compiled to SQL ("
      ++ job.surroundings.builder ++ ")\n"

/-- What is logged of the dialects that a format compiles for, up to the first failure. -/
def compileLog (job : Job) (dialects : List Grammar) (format : Text) : Text :=
  (dialects.takeWhile fun g => (compile g job.subject.expr format).toBool).flatMap fun g =>
    job.config.logLine .debug "compiled" [("dialect", g.name), ("format", format)]

/-- Compiles a format. -/
def compile (job : Job) (format : Text) : Reply :=
  match job.dialects with
  | .error e => .failed (.dialect e)
  | .ok dialects =>
    let err := job.compileLog dialects format
    match compileEach job.subject.expr format dialects with
    | .error failure => { err, failure? := some (.compile format failure) }
    | .ok results =>
      let compiled : Output.Compiled := ⟨format, job.subject.label, results⟩
      { out := compiled.render job.shape, err }

/-- Explains a format for the first dialect. -/
def explain (job : Job) (format : Text) : Reply :=
  match job.dialects with
  | .error e => .failed (.dialect e)
  | .ok [] => .failed (.dialect .required)
  | .ok (g :: _) =>
    match Output.explain g (.column job.column) format with
    | .error e => .failed (.explain e)
    | .ok explained => { out := explained.render job.shape }

/-- Shows the matrix of format characters. -/
def chars (job : Job) : Reply :=
  match job.dialects with
  | .error e => .failed (.dialect e)
  | .ok dialects => { out := Output.Matrix.render ⟨dialects⟩ job.shape }

/-- Compiles the formats that a file holds and writes all of them, or none. A program that was
told to stop does not go on watching the file. -/
def compileFormats (job : Job) (file : Text) (dialects : List Grammar)
    (formats : List Batch.NamedFormat) : Reply :=
  match Batch.compileAll dialects job.column formats with
  | .error rejections => .failed (.batch rejections)
  | .ok entries =>
    let compiled : Batch.Compiled := ⟨file, entries⟩
    let log :=
      job.config.logLine .debug "batch compiled"
        [("file", file), ("entries", Decimal.ofNat entries.length)]
    let notice : Text :=
      if job.arguments.isOn "watch" then "Watching " ++ file ++ " for changes (Ctrl+C to stop)\n"
      else []
    { out := compiled.render job.shape, err := log ++ notice }

/-- Compiles the formats of a file. -/
def batch (job : Job) (file : Text) : Reply :=
  let file := if file.isEmpty then job.config.formatsFile else file
  match job.dialects with
  | .error e => .failed (.dialect e)
  | .ok dialects =>
    match Batch.loadFormats job.surroundings.directory file with
    | .error e => .failed (.formats e)
    | .ok formats => job.compileFormats file dialects formats

/-- Checks formats on databases. -/
def verify (job : Job) : Reply :=
  match Verify.selectTargets job.config (job.arguments.texts "target") with
  | .error e => .failed (.selection e)
  | .ok chosen =>
    let targets : List Verify.Target :=
      chosen.map fun (name, settings) => ⟨name, .adapter settings⟩
    let given := job.arguments.texts "format"
    let formats := if given.isEmpty then Verify.defaultFormats else given
    match Verify.run Adapters.standard targets formats [] job.surroundings.cancelled with
    | .error e => .failed (.run e)
    | .ok reports =>
      let report : Verify.Report :=
        ⟨job.surroundings.runId, job.surroundings.started, job.surroundings.duration, reports⟩
      { out := report.render job.shape
        err := Verify.journal job.config Adapters.standard targets formats.length report
        failure? := if report.isOk then none else some .unverified }

/-- Starts an interactive session. -/
def repl (job : Job) : Reply :=
  match job.dialects with
  | .error e => .failed (.dialect e)
  | .ok dialects =>
    let session : Session := ⟨dialects, job.subject⟩
    { out :=
        "datefmt REPL (" ++ session.dialectNames ++ " on " ++ job.subject.label
          ++ ")\nType .help for commands, .quit to exit\n\n"
      session? := some session }

end Job

/-- Carries out an action. -/
def runAction (job : Job) : Action → Reply
  | .version => job.version
  | .compile => job.compile (job.arguments.words.headD [])
  | .explain => job.explain (job.arguments.words.headD [])
  | .chars => job.chars
  | .batch => job.batch (job.arguments.words.headD [])
  | .verify => job.verify
  | .repl => job.repl
  | .completion => {}

/-! ### Reading a command line -/

/-- Checks the words of a command; `path` is how the command is called. -/
def Arity.check (path : Text) (words : List Text) : Arity → Except UsageError Unit
  | .any => .ok ()
  | .none =>
    match words with
    | [] => .ok ()
    | word :: _ => .error (.unknownCommand word path [])
  | .exactly count =>
    if words.length = count then .ok () else .error (.wrongCount count words.length)
  | .atMost count =>
    if words.length ≤ count then .ok () else .error (.tooMany count words.length)
  | .oneOf choices =>
    match words with
    | [word] => if choices.contains word then .ok () else .error (.notAChoice word path)
    | _ => .error (.wrongCount 1 words.length)

/-- The line of a subcommand. -/
def helpLine (sub : Command) : Text := "  " ++ sub.name ++ "  " ++ sub.short

/-- A short text on how a command is called. -/
def helpText (path : Text) (command : Command) : Text :=
  let about := if command.long.isEmpty then command.short else command.long
  let subs := command.visibleSubs.map helpLine
  about.trim ++ "\n\nUsage:\n  " ++ command.useLine path ++ "\n"
    ++ (if subs.isEmpty then [] else "\nCommands:\n" ++ Text.unlines subs : Text)

/-- Reads the flags and words of a command. Without a result there is nothing left to do but
to give the reply: an error, or the help that was asked for. -/
def readArguments (parent : Text) (above : List Flag) (command : Command) (words : List Text) :
    Except Reply Arguments := do
  let flags := command.localFlags ++ above ++ [helpFlag]
  let arguments ← (Arguments.read flags words).mapError fun e => .failed (.usage (.flag e))
  if arguments.isOn "help" then throw { out := helpText parent command }
  (command.arity.check (command.pathBelow parent) arguments.words).mapError fun e =>
    .failed (.usage e)
  return arguments

/-- Runs a single command with the default settings; the mode of the output can be chosen. -/
def runAlone (surroundings : Surroundings) (action : Action) (words : List Text) : Reply :=
  match readArguments [] [outputFlag] action.command words with
  | .error reply => reply
  | .ok arguments => runAction ⟨surroundings, Config.default, arguments⟩ action

/-- Loads the settings of a command; with the log line on the file they come from. -/
def loadConfig (surroundings : Surroundings) (arguments : Arguments) :
    Except ConfigError (Config × Text) := do
  let file := Config.settingsFile surroundings.directory (arguments.textOr "config" [])
  let config ←
    Config.load Adapters.standard surroundings.directory file surroundings.environment
      arguments.settings
  let log := if file.isEmpty then [] else config.logLine .debug "using config file" [("path", file)]
  return (config, log)

/-- Runs a command of the program; `words` is the line without its name. -/
def runCommand (surroundings : Surroundings) (action : Action) (words : List Text) : Reply :=
  match readArguments program.name globalFlags action.command words with
  | .error reply => reply
  | .ok arguments =>
    if action = .completion then {}
    else
      match loadConfig surroundings arguments with
      | .error e => .failed (.config e)
      | .ok (config, log) => (runAction ⟨surroundings, config, arguments⟩ action).after log

/-- Runs a line without a command: it may only ask for the version or for help. -/
def runProgram (words : List Text) : Reply :=
  match Arguments.read (globalFlags ++ [helpFlag, versionFlag]) words with
  | .error e => .failed (.usage (.flag e))
  | .ok arguments =>
    if !arguments.isOn "help" && arguments.isOn "version" then
      { out := "datefmt " ++ programVersion ++ "\nBuilt unknown (commit unknown)\n" }
    else { out := helpText [] program }

/-! ### Completing a command line -/

/-- The values that a flag can be completed to, if it has a list of them. No settings are
loaded for this, so there are no targets. -/
def completions? (flag : Flag) : Option (List Text) :=
  if flag.name = "dialect" then some Registry.standard.list
  else if flag.name = "output" then some Config.outputs
  else if flag.name = "log-level" then some ["debug", "info", "warn", "error"]
  else if flag.name = "target" then some (Verify.targetNames Config.default)
  else none

/-- The flag that a word ends with: one by its name, or the last of some short names. -/
def flagOfWord? (flags : List Flag) : Text → Option Flag
  | 0x2D :: 0x2D :: name => Flag.named? flags name
  | 0x2D :: shorts => shorts.getLast?.bind (Flag.short? flags)
  | _ => none

/-- The flag whose value the last word of a line is: the one that stands in it before an equals
sign, or else the one in the word before it, unless that is a truth value. -/
def flagToComplete? (flags : List Flag) (before : Option Text) (last : Text) : Option Flag :=
  if last.head? = some 0x2D && last.contains 0x3D then
    flagOfWord? flags (last.takeWhile (· != 0x3D))
  else if last.head? = some 0x2D then none
  else (before.bind (flagOfWord? flags)).filter fun flag => !flag.isBool

/-- The name of the command that completes command lines. -/
def completeName : Text := "__complete"

/-- Completes the last word of a command line as the value of a flag. -/
def completeLine (words : List Text) : Reply :=
  match words.getLast? with
  | none => .failed (.usage (.tooFew 1 0))
  | some last =>
    let action? := (Route.plainWords globalFlags words.dropLast).head?.bind Action.named?
    let flags := (action?.map fun action => action.command.flags).getD [] ++ globalFlags
    match (flagToComplete? flags words.dropLast.getLast? last).bind completions? with
    | some values =>
      { out := Text.unlines values ++ ":4\n"
        err := "Completion ended with directive: ShellCompDirectiveNoFileComp\n" }
    | none =>
      { out := ":0\n", err := "Completion ended with directive: ShellCompDirectiveDefault\n" }

/-! ### The program -/

/-- Runs the program on a command line. -/
def run (surroundings : Surroundings) (line : List Text) : Reply :=
  match Route.plainWords globalFlags line with
  | [] => runProgram line
  | name :: _ =>
    let rest := Route.without globalFlags name line
    if name = completeName then completeLine rest
    else if name = "help" then { out := helpText [] program }
    else
      match Action.named? name with
      | some action => runCommand surroundings action rest
      | none =>
        let near := Route.suggestions (Action.all.map Action.name) name
        .failed (.usage (.unknownCommand name program.name near))

end DatePattern.Cli
