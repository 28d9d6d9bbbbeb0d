import DatePattern.Capability
import DatePattern.Cli.Catalog
import DatePattern.Config.Load
import DatePattern.Dialect.Registry
import DatePattern.Docs.Block
import DatePattern.Text.Prose

/-!
# Pages of the reference

- `indexPage`: an overview of a program and its settings
- `commandPage`: one command
- `charactersPage`: the format characters and how each dialect produces them
-/

namespace DatePattern.Docs

open Cli (Command Flag)

/-! ### Flags and variables -/

/-- The default of a flag as it is shown: a text stands in backticks, an empty list is left
out. -/
def defaultText (flag : Flag) : Text :=
  match flag.type with
  | .text => if flag.default.isEmpty then [] else inlineCode flag.default
  | .bool => flag.default
  | .list | .array => if flag.default = "[]" then [] else flag.default

/-- The row of a flag. -/
def flagRow (flag : Flag) : List Text :=
  [inlineCode ("--" ++ flag.name),
    if flag.short.isEmpty then [] else inlineCode ("-" ++ flag.short),
    defaultText flag, flag.usage.description]

/-- The table of the flags that readers see, by name. -/
def flagTable (flags : List Flag) : Block :=
  .table ["Option", "Short", "Default", "Description"]
    (((Text.sortBy Flag.name flags).filter fun flag => !flag.hidden).map flagRow)

/-- The variable of a setting. -/
def variableOf (setting : Text) : Text := Config.variableLead ++ setting.upper

/-- The settings that variables can be given for. -/
def settingNames : List Text := Config.defaultLayer.map Prod.fst

/-! ### Commands -/

/-- The row of a subcommand. -/
def subRow (sub : Command) : List Text := [inlineCode sub.name, sub.short.description]

/-- Blocks under a header, if there is anything to put there. -/
def sectionOf (title : Text) (present : Bool) (blocks : List Block) : List Block :=
  if present then .header 2 title :: blocks else []

/-- The page of a command below a path, with the flags from above. -/
def commandBlocks (parent : Text) (above : List Flag) (command : Command) : List Block :=
  let use :=
    if Command.anyAvailable command.subs then
      command.pathBelow parent ++ " <subcommand> [options]"
    else command.useLine parent
  let subs := command.visibleSubs
  [.front command.name command.short, .marker, .header 1 command.name,
      .paragraph (if command.long.isEmpty then command.short else command.long),
      .header 2 "Usage", .code "bash" use]
    ++ sectionOf "Aliases" (!command.aliases.isEmpty) [.bullets (command.aliases.map inlineCode)]
    ++ sectionOf "Subcommands" (!subs.isEmpty)
        [.table ["Subcommand", "Description"] (subs.map subRow)]
    ++ sectionOf "Options" (Command.anyVisible command.localFlags) [flagTable command.localFlags]
    ++ sectionOf "Global Options" (Command.anyVisible above) [flagTable above]
    ++ sectionOf "Examples" (!command.examples.isEmpty) [.code "bash" command.examples.dedent]

/-- The page of a command; its flags must be able to stand beside each other. -/
def commandPage (parent : Text) (above : List Flag) (command : Command) :
    Except Cli.FlagClash (List Block) :=
  match (command.clash?).or (Cli.FlagClash.findAbove? command.name command.localFlags above) with
  | some clash => .error clash
  | none => .ok (commandBlocks parent above command)

/-! ### The index -/

/-- The row of a command in the index. -/
def commandRow (command : Command) : List Text :=
  ["[" ++ inlineCode command.name ++ "](/cli/" ++ command.name ++ ")", command.short.description]

/-- The row of a dialect. -/
def dialectRow (g : Grammar) : List Text :=
  [inlineCode g.name, Text.joinWith ", " (g.aliases.map inlineCode)]

/-- A file of settings as an example. -/
def sampleSettings : Text :=
  "dialects: [mysql, postgres]
column: created_at
output: auto
log_level: info
formats_file: formats.yaml
targets:
  local:
    type: sqlite
  pg:
    type: postgres
    host: localhost
    database: postgres
    user: postgres
    password: $\x7bPGPASSWORD\x7d"

/-- The overview of the program and its settings. -/
def indexPage : List Block :=
  let registry := Registry.standard
  [.front "CLI Reference" "Command-line interface reference for datefmt", .marker,
    .header 1 "CLI Reference", .paragraph Cli.program.long,
    .header 2 "Installation",
    .code "bash" "go install github.com/leapstack-labs/sqldatefmt/cmd/datefmt@latest",
    .header 2 "Commands",
    .table ["Command", "Description"] (Cli.program.visibleSubs.map commandRow),
    .header 2 "Global Options", flagTable Cli.program.globals,
    .header 2 "Dialects",
    .paragraph ("Every command that compiles takes " ++ inlineCode "--dialect"
      ++ " with any of these names:"),
    .table ["Dialect", "Aliases"] ((registry.list.filterMap registry.get?).map dialectRow),
    .header 2 "Configuration",
    .paragraph ("Settings are read from " ++ inlineCode "datefmt.yaml"
      ++ " in the working directory (or " ++ inlineCode "--config"
      ++ "), then from environment variables, then from flags. Later sources win."),
    .code "yaml" sampleSettings,
    .header 3 "Environment Variables",
    .table ["Variable", "Config key"]
      (settingNames.map fun setting => [inlineCode (variableOf setting), inlineCode setting]),
    .header 2 "Exit Codes",
    .table ["Code", "Meaning"]
      [[inlineCode "0", "Success"],
        [inlineCode "1", "Compile, configuration or verification error (details on stderr)"]]]

/-! ### Format characters -/

/-- How an engine produces a character, in one word. -/
def mannerWord : Option Capability → Text
  | none => []
  | some (.native _) => "native"
  | some (.emulated _) => "emulated"

/-- The row of a character in the overview. -/
def characterRow (c : Char) : List Text :=
  inlineCode (Text.ofChar c) :: Charset.meaning c ::
    Engine.all.map fun engine => mannerWord (engine.capability? c)

/-- The row of a character of an engine. -/
def capabilityRow (entry : Char × Capability) : List Text :=
  let how := match entry.2 with
    | .native specifier => specifier
    | .emulated recipe => recipe.describe
  [inlineCode (Text.ofChar entry.1), mannerWord (some entry.2), inlineCode how]

/-- The section of an engine. -/
def engineBlocks (engine : Engine) : List Block :=
  [.header 2 engine.name,
    .table ["Char", "Kind", "Rendering"] (engine.kind.capabilities.map capabilityRow)]

/-- The row of a character that is rejected. -/
def rejectedRow (c : Char) : List Text := [inlineCode (Text.ofChar c), Charset.meaning c]

/-- The format characters and how each dialect produces them. -/
def charactersPage : List Block :=
  [.front "Format Characters" "PHP date() format characters and how each dialect produces them",
      .marker, .header 1 "Format Characters",
      .paragraph ("Each supported character compiles either to a " ++ bold "native"
        ++ " token of the dialect's formatting function or to an " ++ bold "emulated"
        ++ " expression built from generic date functions. "
        ++ "Adjacent native characters share one call."),
      .header 2 "Overview",
      .table ("Char" :: "Meaning" :: Engine.all.map Engine.name)
        (Charset.supported.map characterRow)]
    ++ Engine.all.flatMap engineBlocks
    ++ [.header 2 "Unsupported Characters",
      .paragraph ("These characters are rejected on every dialect. "
        ++ "Escape them with a backslash to emit them literally."),
      .table ["Char", "Meaning"] (Charset.unsupported.map rejectedRow)]

end DatePattern.Docs
