import DatePattern.Cli.Command

/-!
# The commands of the program

- `Action`: what the program can be asked to do
- `Action.command`: the command for it, with its texts and its flags
- `program`: the program itself, with the commands below it
-/

namespace DatePattern.Cli

/-- What the program can be asked to do. -/
inductive Action where
  | version
  | compile
  | explain
  | chars
  | batch
  | verify
  | repl
  | completion
  deriving DecidableEq, Repr

/-! ### Flags -/

/-- The flag that chooses dialects. -/
def dialectFlag : Flag where
  name := "dialect"
  short := "d"
  type := .list
  default := "[]"
  usage := "Target dialects (mysql, sqlite, postgres, sqlserver)"

/-- The flag that chooses a column. -/
def columnFlag (usage : Text) : Flag where
  name := "column"
  short := "c"
  usage

/-- The flag that chooses a piece of SQL in place of a column. -/
def exprFlag : Flag where
  name := "expr"
  usage := "Raw SQL expression used as subject instead of a column"

/-- The flag that keeps a batch going. -/
def watchFlag : Flag where
  name := "watch"
  short := "w"
  type := .bool
  default := "false"
  usage := "Recompile when the file changes"

/-- The flag that chooses targets. -/
def targetFlag : Flag where
  name := "target"
  type := .list
  default := "[]"
  usage := "Targets to verify (default: all configured)"

/-- The flag that gives formats to verify. -/
def formatFlag : Flag where
  name := "format"
  short := "f"
  type := .array
  default := "[]"
  usage := "Format to verify (repeatable)"

/-- The flag that names a file of settings. -/
def configFlag : Flag where
  name := "config"
  usage := "config file (default: ./datefmt.yaml)"

/-- The flag that logs all detail. -/
def verboseFlag : Flag where
  name := "verbose"
  short := "v"
  type := .bool
  default := "false"
  usage := "Verbose output"

/-- The flag that chooses a log level. -/
def logLevelFlag : Flag where
  name := "log-level"
  usage := "Log level (debug|info|warn|error)"

/-- The flag that chooses an output mode. -/
def outputFlag : Flag where
  name := "output"
  short := "o"
  usage := "Output format (auto|text|markdown|json)"

/-- The flags of every command. -/
def globalFlags : List Flag := [configFlag, verboseFlag, logLevelFlag, outputFlag]

/-- The flag that asks for help. -/
def helpFlag : Flag where
  name := "help"
  short := "h"
  type := .bool
  default := "false"

/-- The flag that asks for the version. -/
def versionFlag : Flag where
  name := "version"
  type := .bool
  default := "false"

/-! ### Commands -/

/-- Shows the version. -/
def versionCommand : Command where
  use := "version"
  short := "Show version information"
  long := "Display datefmt version and build information."

/-- Compiles a format. -/
def compileCommand : Command where
  use := "compile <format>"
  short := "Compile a PHP date() format into SQL"
  long :=
    "Compile a PHP date() format string into a SQL expression for each
selected dialect.

Characters the dialect supports natively become a single call to its
date-format function. Missing characters are emulated with portable SQL.
Escape a character with a backslash to emit it literally.

Output adapts to environment:
  - Terminal: SQL, one block per dialect
  - Piped/Scripted: Markdown with code blocks"
  examples :=
    "  # Compile for every configured dialect
  datefmt compile 'Y-m-d H:i:s'

  # Compile for PostgreSQL against a specific column
  datefmt compile 'D, d M Y' --dialect postgres --column orders.placed_at

  # Use an arbitrary SQL expression as the subject
  datefmt compile 'l j' --expr 'now()' -d mysql

  # JSON for scripts
  datefmt compile 'Y-W' --output json"
  arity := .exactly 1
  flags := [dialectFlag, columnFlag "Subject column (default from config)", exprFlag]

/-- Explains a format. -/
def explainCommand : Command where
  use := "explain <format>"
  short := "Show how a format is resolved for a dialect"
  long :=
    "Show every token of a format string, whether the dialect renders it
natively, emulates it or copies it literally, and the fragments that are
concatenated into the final SQL."
  examples :=
    "  datefmt explain 'D, d M Y' --dialect sqlite
  datefmt explain 'g:i a' -d sqlserver --output json"
  arity := .exactly 1
  flags := [dialectFlag, columnFlag "Subject column (default from config)"]

/-- Shows the matrix of format characters. -/
def charsCommand : Command where
  use := "chars"
  short := "Show the format character support matrix"
  long :=
    "Show every supported PHP date() format character and, per dialect,
whether it maps to a native format token or is emulated.

Unsupported characters are listed separately; escape them with a
backslash to emit them literally."
  examples :=
    "  datefmt chars
  datefmt chars --dialect sqlite --output markdown"
  arity := .none
  flags := [dialectFlag]

/-- Compiles the formats of a file. -/
def batchCommand : Command where
  use := "batch [file]"
  short := "Compile every format in a YAML file"
  long :=
    "Compile a YAML file of named formats for each selected dialect.

Entries map a name either to a format string or to a mapping with
\"format\" and an optional \"column\":

  iso_date: Y-m-d
  invoice_stamp:
    format: D, d M Y
    column: invoices.issued_at

With --watch the file is recompiled whenever it changes."
  examples :=
    "  datefmt batch formats.yaml
  datefmt batch formats.yaml --dialect mysql,postgres --output json
  datefmt batch --watch"
  arity := .atMost 1
  flags := [dialectFlag, columnFlag "Default subject column (default from config)", watchFlag]

/-- Checks formats on databases. -/
def verifyCommand : Command where
  use := "verify"
  short := "Run compiled formats against live databases"
  long :=
    "Compile formats for each configured target, evaluate them on the live
engine at a fixed set of instants and compare every result with the
PHP date() reference.

Targets are read from the \"targets\" section of datefmt.yaml:

  targets:
    local:
      type: sqlite
    pg:
      type: postgres
      host: localhost
      database: postgres
      user: postgres
      password: $\x7bPGPASSWORD\x7d

Without --format every supported character and a set of composite
formats are checked."
  examples :=
    "  datefmt verify
  datefmt verify --target pg --format 'Y-m-d' --format 'D, d M Y'
  datefmt verify --output json"
  arity := .none
  flags := [targetFlag, formatFlag]

/-- Starts an interactive session. -/
def replCommand : Command where
  use := "repl"
  short := "Compile formats interactively"
  long :=
    "Start an interactive session. Every line is compiled as a format string
for the current dialects; lines starting with a dot are session commands.
Type .help inside the session for the list."
  examples :=
    "  datefmt repl
  datefmt repl --dialect postgres --column o.placed_at"
  arity := .none
  flags := [dialectFlag, columnFlag "Subject column (default from config)", exprFlag]

/-- The shells that completions are made for. -/
def shells : List Text := ["bash", "zsh", "fish", "powershell"]

/-- Writes completions for a shell. -/
def completionCommand : Command where
  use := "completion [bash|zsh|fish|powershell]"
  short := "Generate shell completion scripts"
  long :=
    "Generate shell completion scripts for datefmt.

To load completions:

Bash:
  $ source <(datefmt completion bash)

  # To load completions for each session, execute once:
  # Linux:
  $ datefmt completion bash > /etc/bash_completion.d/datefmt
  # macOS:
  $ datefmt completion bash > $(brew --prefix)/etc/bash_completion.d/datefmt

Zsh:
  # If shell completion is not already enabled in your environment,
  # you will need to enable it. Execute the following once:
  $ echo \"autoload -U compinit; compinit\" >> ~/.zshrc

  # To load completions for each session, execute once:
  $ datefmt completion zsh > \"$\x7bfpath[1]\x7d/_datefmt\"

Fish:
  $ datefmt completion fish | source

  # To load completions for each session, execute once:
  $ datefmt completion fish > ~/.config/fish/completions/datefmt.fish

PowerShell:
  PS> datefmt completion powershell | Out-String | Invoke-Expression
"
  bare := true
  arity := .oneOf shells

namespace Action

/-- All that the program can be asked to do. -/
def all : List Action := [.version, .compile, .explain, .chars, .batch, .verify, .repl, .completion]

/-- The command for an action. -/
def command : Action → Command
  | .version => versionCommand
  | .compile => compileCommand
  | .explain => explainCommand
  | .chars => charsCommand
  | .batch => batchCommand
  | .verify => verifyCommand
  | .repl => replCommand
  | .completion => completionCommand

/-- The name of an action. -/
def name (action : Action) : Text := action.command.name

/-- The action with a name. -/
def named? (name : Text) : Option Action := all.find? fun action => action.name = name

end Action

/-- The version of the program. -/
def programVersion : Text := "0.1.0"

/-- The program with its commands. -/
def program : Command where
  use := "datefmt"
  short := "datefmt - PHP date() formats compiled to SQL"
  long :=
    "datefmt compiles PHP date() format strings into SQL expressions for
MySQL, SQLite, PostgreSQL and SQL Server.

Characters a dialect supports natively are mapped onto its own date-format
function; the rest are emulated with portable SQL. Characters without a
faithful cross-dialect meaning are rejected."
  runs := false
  globals := globalFlags
  subs := Action.all.map Action.command

end DatePattern.Cli
