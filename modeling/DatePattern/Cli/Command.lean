import DatePattern.Cli.Flag

/-!
# Commands

A command has a name, texts that describe it, flags, and perhaps subcommands. What a command
is is told here once; reading a command line and describing a command both start from it.

- `Command.isAvailable`: whether a command is offered to readers
- `Command.useLine`: the line that shows how a command is called
- `FlagClash.find?`: why the flags of a command cannot stand side by side
-/

namespace DatePattern.Cli

/-- The words that a command takes beside its flags. -/
inductive Arity where
  /-- Any number of words. -/
  | any
  | none
  | exactly (count : Nat)
  | atMost (count : Nat)
  /-- One word out of some. -/
  | oneOf (choices : List Text)
  deriving DecidableEq, Repr

/-- A command. -/
structure Command where
  /-- The name, and after a space what it takes. -/
  use : Text
  /-- One line on what the command does. -/
  short : Text := []
  /-- What the command does at length. -/
  long : Text := []
  /-- Lines that show the command at work. -/
  examples : Text := []
  aliases : List Text := []
  hidden : Bool := false
  /-- Whether the command does something by itself. -/
  runs : Bool := true
  /-- Whether the line that shows how it is called does without a mark for flags. -/
  bare : Bool := false
  arity : Arity := .any
  /-- The flags of the command itself. -/
  flags : List Flag := []
  /-- The flags of the command and of all below it. -/
  globals : List Flag := []
  subs : List Command := []
  deriving Inhabited, Repr

namespace Command

/-- The name of a command: its use up to the first space. -/
def name (command : Command) : Text := command.use.takeWhile (· != 0x20)

mutual

/-- Whether a command is offered: it is not hidden, and it runs or has something to offer. -/
def isAvailable : Command → Bool
  | ⟨_, _, _, _, _, hidden, runs, _, _, _, _, subs⟩ => !hidden && (runs || anyAvailable subs)

/-- Whether one of some commands is offered. -/
def anyAvailable : List Command → Bool
  | [] => false
  | command :: rest => command.isAvailable || anyAvailable rest

end

/-- The subcommands that readers see, by name; the one that gives help is not among them. -/
def visibleSubs (command : Command) : List Command :=
  (Text.sortBy name command.subs).filter fun sub => sub.isAvailable && sub.name ≠ "help"

/-- The path of a command below another. -/
def pathBelow (parent : Text) (command : Command) : Text :=
  if parent.isEmpty then command.name else parent ++ " " ++ command.name

/-- Whether some flags have one that readers see. -/
def anyVisible (flags : List Flag) : Bool := flags.any fun flag => !flag.hidden

/-- The flags of a command by itself; its own come before those for all below it. -/
def localFlags (command : Command) : List Flag := command.flags ++ command.globals

/-- How a command is called: its use, with a mark when it has flags of its own that are seen. -/
def useLine (parent : Text) (command : Command) : Text :=
  let line := if parent.isEmpty then command.use else parent ++ " " ++ command.use
  if !command.bare && anyVisible command.flags && !line.includes "[flags]" then line ++ " [flags]"
  else line

end Command

/-- Why a flag cannot stand beside the others of its command. -/
inductive FlagClash where
  /-- Another flag has the same name. -/
  | redefined (command name : Text)
  /-- Another flag has the same short name. -/
  | shortTaken (command short holder : Text)
  /-- The short name is not a single byte. -/
  | longShort (short : Text)
  deriving DecidableEq, Repr

namespace FlagClash

/-- The wording of a clash. -/
def message : FlagClash → Text
  | .redefined command name => command ++ " flag redefined: " ++ name
  | .shortTaken command short holder =>
    "unable to redefine " ++ Text.quotedAlone (shownShort (short.headD 0)) ++ " shorthand in "
      ++ command.quoted ++ " flagset: it's already used for " ++ holder.quoted ++ " flag"
  | .longShort short => short.quoted ++ " shorthand is more than one ASCII character"

/-- Why the short name of a flag cannot be taken beside the flags before it. -/
def ofShort? (command : Text) (before : List Flag) (flag : Flag) : Option FlagClash :=
  match flag.short with
  | [] => none
  | [short] => (Flag.short? before short).map fun holder => .shortTaken command [short] holder.name
  | short => some (.longShort short)

/-- The first clash among the flags of a command, one after the other. -/
def find? (command : Text) (before : List Flag) : List Flag → Option FlagClash
  | [] => none
  | flag :: rest =>
    if (Flag.named? before flag.name).isSome then some (.redefined command flag.name)
    else (ofShort? command before flag).or (find? command (before ++ [flag]) rest)

/-- The first clash of flags from above with those of a command. A flag of the same name
takes the place of one from above. -/
def findAbove? (command : Text) (own : List Flag) : List Flag → Option FlagClash
  | [] => none
  | flag :: rest =>
    if (Flag.named? own flag.name).isSome then findAbove? command own rest
    else (ofShort? command own flag).or (findAbove? command (own ++ [flag]) rest)

end FlagClash

mutual

/-- The first clash among the flags of a command or of one below it. -/
def Command.clash? : Command → Option FlagClash
  | ⟨use, _, _, _, _, _, _, _, _, flags, globals, subs⟩ =>
    (FlagClash.find? (use.takeWhile (· != 0x20)) [] (flags ++ globals)).or (clashBelow? subs)

/-- The first clash among some commands. -/
def Command.clashBelow? : List Command → Option FlagClash
  | [] => none
  | command :: rest => command.clash?.or (clashBelow? rest)

end

end DatePattern.Cli
