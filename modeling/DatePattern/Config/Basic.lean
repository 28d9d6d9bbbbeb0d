import DatePattern.Connection.Settings
import DatePattern.Directory
import DatePattern.Log
import DatePattern.Yaml.Cursor

/-!
# Configurations

What a program is told once: the dialects and the column it works on, how it writes, how
much it logs, its formats file and the databases it checks against. `Config.validate` says
whether a configuration can be used; the first fault in a fixed order is reported.
-/

namespace DatePattern

/-- Why a target cannot be used. -/
inductive TargetFault where
  | typeRequired
  | unknownAdapter (type : Text) (available : List Text)
  deriving DecidableEq, Repr

/-- The wording of a target fault. -/
def TargetFault.message : TargetFault → Text
  | .typeRequired => "target type is required"
  | .unknownAdapter type available => (AdapterError.unknown type available).message

/-- Why a configuration cannot be used. -/
inductive ConfigError where
  /-- The file of settings cannot be read. -/
  | unreadable (file : Text) (cause : FileError)
  /-- The file of settings is not a mapping. -/
  | notYaml (file : Text) (fault : Yaml.Fault)
  /-- A setting has a value of the wrong kind. -/
  | undecodable
  | badOutput (output : Text)
  | badLevel (level : Text) (cause : Log.LevelError)
  | noDialect
  | badDialect (cause : DialectError)
  | badTarget (name : Text) (fault : TargetFault)
  deriving DecidableEq, Repr

/-- The wording of a configuration error. -/
def ConfigError.message : ConfigError → Text
  | .unreadable file cause => "error reading config file " ++ file ++ ": " ++ cause.message
  | .notYaml file _ => "error reading config file " ++ file ++ ": yaml:"
  | .undecodable => "unable to decode config:"
  | .badOutput output =>
    "invalid output format " ++ output.quoted ++ "\nHint: use one of auto, text, markdown, json"
  | .badLevel level cause => "invalid log_level " ++ level.quoted ++ ": " ++ cause.message
  | .noDialect => "at least one dialect is required"
  | .badDialect cause => cause.message
  | .badTarget name fault =>
    "invalid target configuration: target " ++ name.quoted ++ ": " ++ fault.message

/-- The settings of a program. -/
structure Config where
  dialects : List Text := []
  column : Text := []
  output : Text := []
  logLevel : Text := []
  verbose : Bool := false
  formatsFile : Text := []
  /-- The databases to check against, each name once. -/
  targets : List (Text × ConnectionSettings) := []
  deriving DecidableEq, Repr

namespace Config

/-- The configuration of a program that was told nothing. -/
def default : Config where
  dialects := Engine.all.map Engine.name
  column := "created_at"
  output := "auto"
  logLevel := "info"
  formatsFile := "formats.yaml"

/-- The names of the output modes. -/
def outputs : List Text := ["auto", "text", "markdown", "json"]

/-- The least severe level that is logged. A verbose program logs its detail; a level that
cannot be read counts as `info`. -/
def level (config : Config) : Log.Level :=
  if config.verbose then .debug
  else
    match Log.Level.parse config.logLevel with
    | .ok level => level
    | .error _ => .info

/-- A log line of the program, or nothing when the level is not logged. -/
def logLine (config : Config) (level : Log.Level) (message : Text)
    (attributes : List (Text × Text)) : Text :=
  if config.level.value ≤ level.value then Log.line level message attributes else []

/-- Checks a target: it names an adapter, whatever the case. -/
def validateTarget (adapters : Adapters) (target : ConnectionSettings) : Except TargetFault Unit :=
  if target.type.isEmpty then .error .typeRequired
  else if adapters.isRegistered target.type.lower then .ok ()
  else .error (.unknownAdapter target.type adapters.list)

/-- The targets by name in bytewise order. -/
def sortedTargets (config : Config) : List (Text × ConnectionSettings) :=
  Text.sortBy Prod.fst config.targets

/-- Checks that every name is that of a dialect. -/
def validateDialects : List Text → Except DialectError Unit
  | [] => .ok ()
  | name :: rest =>
    match Engine.parse name with
    | .ok _ => validateDialects rest
    | .error e => .error e

/-- Checks the targets in order. -/
def validateTargets (adapters : Adapters) :
    List (Text × ConnectionSettings) → Except ConfigError Unit
  | [] => .ok ()
  | (name, target) :: rest =>
    match validateTarget adapters target with
    | .ok () => validateTargets adapters rest
    | .error fault => .error (.badTarget name fault)

/-- Checks a configuration: its output mode, its log level, its dialects, its targets. -/
def validate (adapters : Adapters) (config : Config) : Except ConfigError Unit := do
  if !outputs.contains config.output then throw (.badOutput config.output)
  let _ ← (Log.Level.parse config.logLevel).mapError (.badLevel config.logLevel)
  if config.dialects.isEmpty then throw .noDialect
  (validateDialects config.dialects).mapError .badDialect
  validateTargets adapters config.sortedTargets

/-- The engines of names in order, without repetition. `seen` are those met before. -/
def parseDialects (seen : List Engine) : List Text → Except DialectError (List Engine)
  | [] => .ok []
  | name :: rest => do
    let engine ← Engine.parse name
    if seen.contains engine then parseDialects seen rest
    else return engine :: (← parseDialects (engine :: seen) rest)

/-- The engines of a configuration in order, without repetition. -/
def engines (config : Config) : Except DialectError (List Engine) :=
  parseDialects [] config.dialects

/-- A target as a connection is made with it: adapter names are in lower case. -/
def connection (target : ConnectionSettings) : ConnectionSettings :=
  { target with type := target.type.lower }

end Config

end DatePattern
