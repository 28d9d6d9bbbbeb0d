import DatePattern.Config.Basic
import DatePattern.Config.Decode
import DatePattern.Config.Environment
import DatePattern.Yaml.Reading

/-!
# Loading configurations

A configuration comes from four layers, each over the one before: the defaults, a file of
settings, the variables of the environment whose names start with `DATEFMT_`, and flags.
The layers are trees of values; only their merge is read into a `Config`. References to
variables are expanded in the fields of targets that may hold secrets.
-/

namespace DatePattern.Config

open Yaml (Value)

/-! ### Layers -/

mutual

/-- Lays a value over another: mappings are merged, anything else replaces. -/
def overlayValue : (upper lower : Value) → Value
  | .map upper, .map lower => .map (overlay upper lower)
  | upper, _ => upper

/-- Lays entries over others. -/
def overlay : (upper lower : List (Text × Value)) → List (Text × Value)
  | [], lower => lower
  | (name, value) :: rest, lower =>
    let merged :=
      match lower.lookup name with
      | some old => overlayValue value old
      | none => value
    overlay rest (setEntry name merged lower)

end

/-- Sets the value at a path of names, making mappings on the way. A value in the way that
is no mapping leaves the rest of the path at its level. -/
def setAt (value : Value) : (path : List Text) → List (Text × Value) → List (Text × Value)
  | [], entries => entries
  | [name], entries => setEntry name value entries
  | name :: rest, entries =>
    match entries.lookup name with
    | none => setEntry name (.map (setAt value rest [])) entries
    | some (.map inner) => setEntry name (.map (setAt value rest inner)) entries
    | some _ => setAt value rest entries

/-- Entries whose names are paths, as a tree. -/
def tree (entries : List (Text × Value)) : List (Text × Value) :=
  entries.foldl (fun all (name, value) => setAt value (name.splitAtByte 0x2E) all) []

/-- The layer of the defaults. -/
def defaultLayer : List (Text × Value) :=
  [("dialects", .list (default.dialects.map .text)), ("column", .text default.column),
    ("output", .text default.output), ("log_level", .text default.logLevel),
    ("verbose", .bool false), ("formats_file", .text default.formatsFile)]

/-- What the names of variables that are settings start with. -/
def variableLead : Text := "DATEFMT_"

/-- The layer of the environment. -/
def environmentLayer (env : Environment) : List (Text × Value) :=
  tree <| env.filterMap fun (name, value) =>
    let key := (name.withoutLead variableLead).lower
    if variableLead.isPrefixOf name && !key.isEmpty then some (key, .text value) else none

/-- The setting that a flag gives, if it gives one. -/
def settingOfFlag? (flag : Text) : Option Text :=
  if flag = "dialect" then some "dialects"
  else if flag = "column" then some "column"
  else if flag = "output" then some "output"
  else if flag = "log-level" then some "log_level"
  else if flag = "verbose" then some "verbose"
  else if flag = "formats-file" then some "formats_file"
  else none

/-- The layer of the flags that were set. -/
def flagLayer (flags : List (Text × Value)) : List (Text × Value) :=
  flags.filterMap fun (flag, value) => (settingOfFlag? flag).map fun name => (name, value)

/-! ### Reading the merged layers -/

/-- The configuration of merged layers. -/
def decode? (entries : List (Text × Value)) : Option Config := do
  return {
    dialects := ← textsOf? (fieldOf entries "dialects")
    column := ← textOf? (fieldOf entries "column")
    output := ← textOf? (fieldOf entries "output")
    logLevel := ← textOf? (fieldOf entries "log_level")
    verbose := ← boolOf? (fieldOf entries "verbose")
    formatsFile := ← textOf? (fieldOf entries "formats_file")
    targets := ← targetsOf? (fieldOf entries "targets") }

/-- Expands references in a target. -/
def expandTarget (env : Environment) (target : ConnectionSettings) : ConnectionSettings :=
  { target with
    password := env.expand target.password
    user := env.expand target.user
    host := env.expand target.host
    database := env.expand target.database
    path := env.expand target.path }

/-- A decoded configuration in its final form: dialects without white space around them, the
output mode in lower case, references expanded. -/
def normalize (env : Environment) (config : Config) : Config :=
  { config with
    dialects := config.dialects.map Text.trim
    output := config.output.lower
    targets := config.targets.map fun (name, target) => (name, expandTarget env target) }

/-! ### Loading -/

/-- The usual names of the file of settings. -/
def usualFiles : List Text := ["datefmt.yaml", "datefmt.yml"]

/-- The file of settings: the one named, else the first of the usual names that exists. -/
def settingsFile (dir : Directory) (explicit : Text) : Text :=
  if !explicit.isEmpty then explicit else (usualFiles.find? fun name => dir.has name).getD []

/-- The layer of a file of settings; no name stands for no file. -/
def fileLayer (dir : Directory) (file : Text) : Except ConfigError (List (Text × Value)) :=
  if file.isEmpty then .ok []
  else do
    let text ← (dir.read (Path.clean file)).mapError (.unreadable file)
    (Yaml.documentPairs text).mapError (.notYaml file)

/-- The configuration of the four layers. -/
def load (adapters : Adapters) (dir : Directory) (file : Text) (env : Environment)
    (flags : List (Text × Value)) : Except ConfigError Config := do
  let entries := overlay (← fileLayer dir file) defaultLayer
  let entries := overlay (environmentLayer env) entries
  let entries := overlay (flagLayer flags) entries
  match decode? entries with
  | none => throw .undecodable
  | some config =>
    let config := normalize env config
    config.validate adapters
    return config

end DatePattern.Config
