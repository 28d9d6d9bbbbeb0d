import DatePattern.Cli.Run
import DatePattern.Docs.Page

/-!
# The command line

The outer layer of the program: it fetches the files and variables that a command line needs,
runs it, and writes what it comes to. Which ones it may look at is known before it runs; settings
come first, because they may name the file of formats and refer to variables. An interactive
session is held line by line.
-/

namespace DatePattern.Cli

/-- The action of a command line with its arguments, if they suit it. -/
def requested? (line : List Text) : Option (Action × Arguments) := do
  let name ← (Route.plainWords globalFlags line).head?
  let action ← Action.named? name
  let rest := Route.without globalFlags name line
  let arguments ← (readArguments program.name globalFlags action.command rest).toOption
  return (action, arguments)

/-- The files that the settings of a command line may come from. -/
def settingsFiles (line : List Text) : List Text :=
  match requested? line with
  | none => []
  | some (_, arguments) =>
    let file := arguments.textOr "config" []
    if file.isEmpty then Config.usualFiles else [file, Path.clean file]

/-- The file of formats that a command line reads, given its settings. -/
def formatsFiles (surroundings : Surroundings) (line : List Text) : List Text :=
  match requested? line with
  | some (.batch, arguments) =>
    match loadConfig surroundings arguments with
    | .error _ => []
    | .ok (config, _) =>
      let file := arguments.words.headD []
      [if file.isEmpty then config.formatsFile else file]
  | _ => []

/-- The variables that settings may come from or refer to. -/
def variableNames (dir : Directory) : List Text :=
  Docs.settingNames.map Docs.variableOf
    ++ dir.files.flatMap fun (_, content) => Environment.names content

end DatePattern.Cli

namespace DatePattern

/-- A text as a string; bytes that are no characters are shown by a sign for them. -/
def Text.shown (text : Text) : String := String.ofList text.chars

/-- Reads those of some files that can be read. -/
def fetchFiles (paths : List Text) : IO (List (Text × Text)) :=
  paths.filterMapM fun path => do
    try
      let content ← IO.FS.readBinFile path.shown
      return some (path, content.data.toList)
    catch _ => return none

/-- Reads those of some variables that are set. -/
def fetchVariables (names : List Text) : IO Environment :=
  names.filterMapM fun name => do
    return (← IO.getEnv name.shown).map fun value => (name, Text.ofString value)

/-- Writes what a line or a command comes to. -/
def present (out err : Text) : IO Unit := do
  let output ← IO.getStdout
  output.write ⟨out.toArray⟩
  output.flush
  let errors ← IO.getStderr
  errors.write ⟨err.toArray⟩
  errors.flush

/-- Holds a session until it or its input ends. -/
partial def holdSession (session : Session) : IO Unit := do
  present "datefmt> " []
  let line ← (← IO.getStdin).getLine
  if line.isEmpty then return ()
  let turn := session.handle Registry.standard ((Text.ofString line).trimRightWhile (· = 0x0A))
  present turn.out turn.err
  if turn.quit then return () else holdSession turn.session

end DatePattern

open DatePattern in
/-- Runs the program on its arguments. -/
def main (args : List String) : IO UInt32 := do
  let line := args.map Text.ofString
  let settings ← fetchFiles (Cli.settingsFiles line)
  let environment ← fetchVariables (Cli.variableNames ⟨settings⟩)
  let terminal ← (← IO.getStdout).isTty
  let first : Cli.Surroundings := { directory := ⟨settings⟩, environment, terminal }
  let formats ← fetchFiles (Cli.formatsFiles first line)
  let reply := Cli.run { first with directory := ⟨settings ++ formats⟩ } line
  present reply.out reply.err
  if let some session := reply.session? then holdSession session
  match reply.failure? with
  | none => return 0
  | some failure =>
    present [] ("Error: " ++ failure.message ++ "\n")
    return 1
