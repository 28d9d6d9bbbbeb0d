import DatePattern.Directory
import DatePattern.Docs.Page

/-!
# Writing the reference

The pages of the reference are files of one folder. They are written in order, and the first
that cannot be written ends the work.
-/

namespace DatePattern.Docs

/-- A part of the reference. -/
inductive Part where
  /-- The commands, with an index. -/
  | commands
  /-- The format characters. -/
  | characters
  deriving DecidableEq, Repr

/-- A page that is to be written. -/
structure Sheet where
  name : Text
  /-- What a failure to write the page is reported under. -/
  task : Text
  content : Text
  deriving DecidableEq, Repr

/-- Why the reference cannot be written. -/
inductive SiteError where
  /-- There is no folder for it. -/
  | noFolder (cause : FileError)
  /-- A page cannot be written. -/
  | unwritten (task : Text) (cause : FileError)
  | clash (cause : Cli.FlagClash)
  deriving DecidableEq, Repr

/-- The wording of a site error. -/
def SiteError.message : SiteError → Text
  | .noFolder cause => "failed to create output directory: " ++ cause.message
  | .unwritten task cause =>
    (if task.isEmpty then [] else "failed to generate " ++ task ++ ": " : Text) ++ cause.message
  | .clash cause => cause.message

/-- The sheet of a command. -/
def commandSheet (command : Cli.Command) : Except Cli.FlagClash Sheet := do
  let blocks ← commandPage Cli.program.name Cli.program.globals command
  return ⟨command.name ++ ".md", "page for " ++ command.name, page blocks⟩

/-- The sheets of a part. -/
def Part.sheets : Part → Except Cli.FlagClash (List Sheet)
  | .commands => do
    return ⟨"index.md", "index", page indexPage⟩ :: (← Cli.program.visibleSubs.mapM commandSheet)
  | .characters => .ok [⟨"format-characters.md", [], page charactersPage⟩]

/-- Writes sheets into a folder, one after the other. -/
def writeSheets (folder : Text) : Directory → List Sheet → Except SiteError Directory
  | dir, [] => .ok dir
  | dir, sheet :: rest =>
    match dir.write (Path.join folder sheet.name) sheet.content with
    | .ok dir => writeSheets folder dir rest
    | .error cause => .error (.unwritten sheet.task cause)

/-- Writes a part of the reference into a folder. -/
def generate (dir : Directory) (folder : Text) (part : Part) : Except SiteError Directory := do
  (dir.checkFolder folder).mapError .noFolder
  writeSheets folder dir (← part.sheets.mapError .clash)

/-- The name that marks the root of a project. -/
def rootMarker : Text := "go.mod"

/-- The root of the project that a folder belongs to, if it belongs to one. -/
def projectRoot? (dir : Directory) (folder : Text) : Option Text :=
  let names := (Path.clean folder).splitAtByte Path.separator
  let upward := (names.filter fun (name : Text) => name ≠ ".").reverse
  (dir.climb? rootMarker upward).map fun root =>
    (if root.isEmpty then "." else Text.joinWith "/" root : Text)

end DatePattern.Docs
