import DatePattern.Config.Basic
import DatePattern.Pattern.Basic
import DatePattern.Verify.Run

/-!
# What a verification covers

The targets of a run are chosen by name from a configuration, all of them in bytewise order
when no name is given. Unless formats are given, every supported character is checked by
itself, and then some formats made of several.
-/

namespace DatePattern.Verify

/-- Why targets cannot be chosen. -/
inductive SelectionError where
  /-- The configuration has no targets. -/
  | noTargets
  | unknown (name : Text) (available : List Text)
  deriving DecidableEq, Repr

/-- The wording of a selection error. -/
def SelectionError.message : SelectionError → Text
  | .noTargets => RunError.noTargets.message ++ "\nHint: add a targets section to datefmt.yaml"
  | .unknown name available =>
    "unknown target " ++ name.quoted ++ "\nAvailable targets: ["
      ++ Text.joinWith " " available ++ "]"

/-- The names of the targets of a configuration in bytewise order. -/
def targetNames (config : Config) : List Text := config.sortedTargets.map Prod.fst

/-- The settings of targets by their names, or the first name without any. -/
def settingsOf (config : Config) :
    List Text → Except SelectionError (List (Text × ConnectionSettings))
  | [] => .ok []
  | name :: rest =>
    match config.targets.lookup name with
    | none => .error (.unknown name (targetNames config))
    | some target => do return (name, Config.connection target) :: (← settingsOf config rest)

/-- Chooses targets by name; no names stand for all of them. -/
def selectTargets (config : Config) (names : List Text) :
    Except SelectionError (List (Text × ConnectionSettings)) :=
  if config.targets.isEmpty then .error .noTargets
  else settingsOf config (if names.isEmpty then targetNames config else names)

/-- Formats of several characters that are checked by default. -/
def compositeFormats : List Text :=
  ["Y-m-d H:i:s", "D, d M Y", "l \\t\\h\\e j F", "g:i a", "h:i A", "W/o", "t", "100% y"]

/-- The formats that are checked by default. -/
def defaultFormats : List Text := Charset.supported.map Text.ofChar ++ compositeFormats

end DatePattern.Verify
