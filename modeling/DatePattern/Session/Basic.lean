import DatePattern.Dialect.Registry
import DatePattern.Output.Explained

/-!
# Interactive sessions

A session has dialects and a subject. A line that starts with a dot is a command; any other
line that is not blank is a format, compiled for every dialect. A line that reports a fault
changes nothing.
-/

namespace DatePattern

/-- The state of a session. -/
structure Session where
  dialects : List Grammar
  subject : Subject

namespace Session

/-- What a line comes to. -/
structure Turn where
  /-- The session after the line. -/
  session : Session
  /-- What the line writes. -/
  out : Text := []
  /-- What the line reports. -/
  err : Text := []
  /-- Whether the session ends. -/
  quit : Bool := false
  /-- Whether the line needs a dialect and there is none. -/
  stuck : Bool := false

/-- The names of the dialects. -/
def dialectNames (session : Session) : Text :=
  Text.joinWith ", " (session.dialects.map Grammar.name)

/-- A report of a fault. -/
def report (message : Text) : Text := Output.styled ("Error: " ++ message) ++ "\n"

/-- The list of the commands. -/
def help : Text :=
  "\nCommands:
  .help              Show this help message
  .dialect [names]   Show or set the dialects (comma-separated)
  .column [name]     Show or set the subject column
  .expr <sql>        Use a raw SQL expression as subject
  .explain <format>  Show how each character of a format resolves
  .quit / .exit      Exit the REPL

Tips:
  - Any other line is compiled as a format string
  - Escape a leading dot as \\. to compile it literally
  - Use arrow keys to navigate history

"

/-- What a format writes for one dialect; its name stands above when there are several. -/
def compiled (several : Bool) (g : Grammar) (sql : Text) : Text :=
  (if several then Output.styled ("-- " ++ g.name) ++ "\n" else [] : Text) ++ sql ++ "\n"

/-- What a format writes and reports for some dialects. -/
def compileLines (several : Bool) (subject : SqlExpr) (format : Text) :
    List Grammar → Text × Text
  | [] => ([], [])
  | g :: rest =>
    let (out, err) := compileLines several subject format rest
    match compile g subject format with
    | .ok sql => (compiled several g sql ++ out, err)
    | .error e => (out, report (g.name ++ ": " ++ e.message) ++ err)

/-- A line that is a format. -/
def format (session : Session) (line : Text) : Turn :=
  let (out, err) :=
    compileLines (decide (1 < session.dialects.length)) session.subject.expr line session.dialects
  { session, out, err }

/-- The dialects of names between commas, or the first fault. -/
def dialectsOf (registry : Registry) : List Text → Except DialectError (List Grammar)
  | [] => .ok []
  | name :: rest => do return (← registry.lookup name.trim) :: (← dialectsOf registry rest)

/-- A command that sets the dialects. -/
def setDialects (session : Session) (registry : Registry) (names : Text) : Turn :=
  match dialectsOf registry (names.splitAtByte 0x2C) with
  | .ok dialects => { session := { session with dialects } }
  | .error e => { session, err := report e.message }

/-- A command that explains a format for the first dialect. -/
def explain (session : Session) (format : Text) : Turn :=
  match session.dialects with
  | [] => { session, stuck := true }
  | g :: _ =>
    match Output.explain g session.subject.expr format with
    | .ok explained => { session, out := explained.table.text ++ explained.sql ++ "\n" }
    | .error e => { session, err := report e.message }

/-- A command with its argument. The name of a command may be in any case. -/
def command (session : Session) (registry : Registry) (name argument : Text) : Turn :=
  let lower := name.lower
  if lower = ".quit" || lower = ".exit" then { session, quit := true }
  else if lower = ".help" then { session, out := help }
  else if lower = ".dialect" then
    if argument.isEmpty then { session, out := session.dialectNames ++ "\n" }
    else session.setDialects registry argument
  else if lower = ".column" then
    if argument.isEmpty then { session, out := session.subject.label ++ "\n" }
    else { session := { session with subject := .column argument } }
  else if lower = ".expr" then
    if argument.isEmpty then { session, err := "Usage: .expr <sql>\n" }
    else { session := { session with subject := .raw argument } }
  else if lower = ".explain" then
    if argument.isEmpty then { session, err := "Usage: .explain <format>\n" }
    else session.explain argument
  else { session, err := report ("Unknown command: " ++ name ++ " (type .help for commands)") }

/-- A line of a session. A command ends at the first space, and its argument is what follows
without white space around it. White space around a format is part of it. -/
def handle (session : Session) (registry : Registry) (line : Text) : Turn :=
  let trimmed := line.trim
  match trimmed with
  | [] => { session }
  | 0x2E :: _ =>
    match Text.cut? " " trimmed with
    | some (name, argument) => session.command registry name argument.trim
    | none => session.command registry trimmed []
  | _ => session.format line

/-- The turns of lines until one ends the session. -/
def run (session : Session) (registry : Registry) : List Text → List Turn
  | [] => []
  | line :: rest =>
    let turn := session.handle registry line
    turn :: if turn.quit then [] else run turn.session registry rest

end Session

end DatePattern
