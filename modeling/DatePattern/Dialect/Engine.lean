import DatePattern.Number.Decimal
import DatePattern.Text.Case
import DatePattern.Text.Quoted

/-!
# Engines

The four SQL engines, the numbers they are known by, and the names people call them. A
number that belongs to no engine is still a `Kind`: a grammar may carry one, and every
operation that needs an engine reports it.
-/

namespace DatePattern

/-- A supported SQL engine. -/
inductive Engine where
  | mysql
  | sqlite
  | postgres
  | sqlserver
  deriving DecidableEq, Repr

/-- The number of a dialect, which may belong to no engine. -/
structure Kind where
  /-- The number. -/
  code : Int
  deriving DecidableEq, Repr

namespace Engine

/-- The engines in their fixed order. -/
def all : List Engine := [.mysql, .sqlite, .postgres, .sqlserver]

/-- The canonical name of an engine. -/
def name : Engine → Text
  | .mysql => "mysql"
  | .sqlite => "sqlite"
  | .postgres => "postgres"
  | .sqlserver => "sqlserver"

/-- The number of an engine. -/
def kind : Engine → Kind
  | .mysql => ⟨1⟩
  | .sqlite => ⟨2⟩
  | .postgres => ⟨3⟩
  | .sqlserver => ⟨4⟩

/-- The names and common aliases of the engines, in lower case. -/
def aliases : List (Text × Engine) :=
  [("mysql", .mysql), ("mariadb", .mysql), ("sqlite", .sqlite), ("sqlite3", .sqlite),
    ("pgsql", .postgres), ("pg", .postgres), ("postgres", .postgres), ("postgresql", .postgres),
    ("pgx", .postgres), ("sqlsrv", .sqlserver), ("sqlserver", .sqlserver),
    ("mssql", .sqlserver)]

end Engine

namespace Kind

/-- The engine that a number belongs to. -/
def engine? (kind : Kind) : Option Engine := Engine.all.find? fun engine => engine.kind = kind

/-- Whether a number belongs to an engine. -/
def isValid (kind : Kind) : Bool := kind.engine?.isSome

/-- The name of the engine, or the number itself. -/
def name (kind : Kind) : Text :=
  match kind.engine? with
  | some engine => engine.name
  | none => "dialect(" ++ Decimal.ofInt kind.code ++ ")"

end Kind

/-- Why no dialect was found. -/
inductive DialectError where
  /-- No dialect has this name. -/
  | unknownName (name : Text)
  /-- No engine has this number. -/
  | unknownKind (kind : Kind)
  /-- The name is empty where one is needed. -/
  | required
  deriving DecidableEq, Repr

/-- The wording of a dialect error. -/
def DialectError.message : DialectError → Text
  | .unknownName name =>
    if name.isEmpty then "invalid dialect " ++ Kind.name ⟨0⟩
    else "invalid dialect " ++ name.quoted ++ " (supported: mysql, sqlite, postgres, sqlserver)"
  | .unknownKind kind => "invalid dialect " ++ kind.name
  | .required => "dialect is required"

/-- The engine of a name or alias, whatever its case and the white space around it. -/
def Engine.parse (name : Text) : Except DialectError Engine :=
  match Engine.aliases.lookup name.trim.lower with
  | some engine => .ok engine
  | none => .error (.unknownName name)

end DatePattern
