import DatePattern.Bindings
import DatePattern.Text.Basic

/-!
# Directories

A directory is a list of files with their paths inside it. A path is followed name by name:
an empty name and `.` stay, `..` goes up, and every name but the last must be a folder. What
lies above the directory is out of reach and counts as missing. A path that starts with a
separator is followed from the root, whose files are those with such a path.
-/

namespace DatePattern

/-- The separator of the names of a path. -/
def Path.separator : UInt8 := 0x2F

/-- The names of a path, cleaned one by one: `clean` holds those kept so far, the last first. -/
def Path.cleanNames (rooted : Bool) (kept : List Text) : List Text → List Text
  | [] => kept.reverse
  | name :: rest =>
    if name.isEmpty || name = "." then cleanNames rooted kept rest
    else if name = ".." then
      match kept with
      | last :: before =>
        if last = ".." then cleanNames rooted (name :: kept) rest else cleanNames rooted before rest
      | [] => cleanNames rooted (if rooted then [] else [name]) rest
    else cleanNames rooted (name :: kept) rest

/-- The shortest path that means the same, by its text alone. -/
def Path.clean (path : Text) : Text :=
  let rooted := path.head? == some Path.separator
  let names := Path.cleanNames rooted [] (path.splitAtByte Path.separator)
  if rooted then "/" ++ Text.joinWith "/" names
  else if names.isEmpty then "."
  else Text.joinWith "/" names

/-- A path inside another. -/
def Path.join (base path : Text) : Text :=
  if base.isEmpty then (if path.isEmpty then [] else Path.clean path)
  else Path.clean (base ++ "/" ++ path)

/-- Why a file cannot be used. -/
inductive FileReason where
  | missing
  | isDirectory
  | notDirectory
  | nameTooLong
  /-- The path holds a zero byte. -/
  | invalidName
  deriving DecidableEq, Repr

/-- The wording of a reason. -/
def FileReason.message : FileReason → Text
  | .missing => "no such file or directory"
  | .isDirectory => "is a directory"
  | .notDirectory => "not a directory"
  | .nameTooLong => "file name too long"
  | .invalidName => "invalid argument"

/-- A failed use of a file: what was tried, on which path, and why it failed. -/
structure FileError where
  action : Text
  path : Text
  reason : FileReason
  deriving DecidableEq, Repr

/-- The wording of a file error. -/
def FileError.message (e : FileError) : Text :=
  e.action ++ " " ++ e.path ++ ": " ++ e.reason.message

/-- A directory: the paths of its files and what they hold. -/
structure Directory where
  files : List (Text × Text)

namespace Directory

/-- What a path leads to. -/
inductive Entry where
  | file (content : Text)
  | folder
  deriving DecidableEq, Repr

/-- What stands at a list of names, if anything. -/
def at? (dir : Directory) (names : List Text) : Option Entry :=
  let here (path : Text) : List Text := path.splitAtByte Path.separator
  match dir.files.find? fun (path, _) => here path == names with
  | some (_, content) => some (.file content)
  | none =>
    if names.isEmpty || dir.files.any fun (path, _) => names.isPrefixOf (here path) then
      some .folder
    else none

/-- Follows names from a folder. -/
def follow (dir : Directory) (position : List Text) : List Text → Except FileReason Entry
  | [] => .ok .folder
  | name :: rest =>
    if 255 < name.length then .error .nameTooLong
    else if name.isEmpty || name = "." then follow dir position rest
    else if name = ".." then
      if position.isEmpty then .error .missing
      else if position = [[]] then follow dir position rest
      else follow dir position.dropLast rest
    else
      match dir.at? (position ++ [name]) with
      | none => .error .missing
      | some (.file content) => if rest.isEmpty then .ok (.file content) else .error .notDirectory
      | some .folder => follow dir (position ++ [name]) rest

/-- What a path leads to. -/
def entry (dir : Directory) (path : Text) : Except FileReason Entry :=
  if path.contains 0 then .error .invalidName
  else if path.isEmpty then .error .missing
  else if 4096 ≤ path.length then .error .nameTooLong
  else
    dir.follow (if path.head? = some Path.separator then [[]] else [])
      (path.splitAtByte Path.separator)

/-- Whether a path leads to something. -/
def has (dir : Directory) (path : Text) : Bool :=
  match dir.entry path with
  | .ok _ => true
  | .error _ => false

/-- The content of a file. -/
def read (dir : Directory) (path : Text) : Except FileError Text :=
  match dir.entry path with
  | .ok (.file content) => .ok content
  | .ok .folder => .error ⟨"read", path, .isDirectory⟩
  | .error reason => .error ⟨"open", path, reason⟩

end Directory

end DatePattern

namespace DatePattern.Directory

/-! ## Writing -/

/-- Checks that a folder is at a path or could be made there. -/
def checkFolder (dir : Directory) (path : Text) : Except FileError Unit :=
  match dir.entry path with
  | .ok (.file _) => .error ⟨"mkdir", path, .notDirectory⟩
  | _ => .ok ()

/-- Writes a file; the folders on its way are made. -/
def write (dir : Directory) (path content : Text) : Except FileError Directory :=
  match dir.entry path with
  | .ok .folder => .error ⟨"open", path, .isDirectory⟩
  | .ok (.file _) | .error .missing => .ok ⟨Bindings.bind path content dir.files⟩
  | .error reason => .error ⟨"open", path, reason⟩

/-- The name below a folder that a path goes through, if it goes through the folder. -/
def childOf? : (folder path : List Text) → Option Text
  | [], name :: _ => some name
  | a :: folder, b :: path => if a = b then childOf? folder path else none
  | _, [] => none

/-- The names in a folder, each once and in bytewise order. -/
def list (dir : Directory) (folder : Text) : List Text :=
  let names := dir.files.filterMap fun (path, _) =>
    childOf? (folder.splitAtByte Path.separator) (path.splitAtByte Path.separator)
  Text.sort names.eraseDups

/-- The nearest folder that has a name in it: the one of the given names, last first, or one
above it. -/
def climb? (dir : Directory) (name : Text) : (upward : List Text) → Option (List Text)
  | [] => if (dir.at? [name]).isSome then some [] else none
  | last :: above =>
    let here := (last :: above).reverse
    if (dir.at? (here ++ [name])).isSome then some here else climb? dir name above

end DatePattern.Directory
