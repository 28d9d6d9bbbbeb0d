import DatePattern.Bindings
import DatePattern.Dialect.Grammar

/-!
# Connection settings and adapters

Where a database is and how to reach it, and the names under which connections can be made, each
with the grammar of its engine. Names of adapters are matched exactly.
-/

namespace DatePattern

/-- The settings of a connection. -/
structure ConnectionSettings where
  /-- The name of the adapter. -/
  type : Text := []
  /-- The file of an embedded database. -/
  path : Text := []
  host : Text := []
  /-- The port; 0 stands for the engine's own. -/
  port : Int := 0
  database : Text := []
  user : Text := []
  password : Text := []
  /-- Further options by name, each name once. -/
  options : List (Text × Text) := []
  deriving DecidableEq, Repr

namespace ConnectionSettings

/-- The host, `localhost` when none is given. -/
def hostOrLocal (s : ConnectionSettings) : Text := if s.host.isEmpty then "localhost" else s.host

/-- The port, or the one given when it is 0. -/
def portOr (s : ConnectionSettings) (default : Int) : Int := if s.port = 0 then default else s.port

end ConnectionSettings

/-! ## Adapters -/

/-- Why no adapter was found. -/
inductive AdapterError where
  /-- No name is given. -/
  | typeRequired
  /-- The name is not among those available. -/
  | unknown (type : Text) (available : List Text)
  deriving DecidableEq, Repr

/-- The wording of an adapter error. -/
def AdapterError.message : AdapterError → Text
  | .typeRequired => "adapter type not specified"
  | .unknown type available =>
    "unknown adapter type " ++ type.quoted ++ "\nAvailable adapters: ["
      ++ Text.joinWith " " available ++ "]\nHint: Check targets.<name>.type in datefmt.yaml"

/-- The adapters by name, each name once. -/
structure Adapters where
  /-- Names and grammars. -/
  entries : List (Text × Grammar)

namespace Adapters

/-- Adds an adapter. -/
def register (adapters : Adapters) (name : Text) (g : Grammar) : Adapters :=
  ⟨Bindings.bind name g adapters.entries⟩

/-- The names in bytewise order. -/
def list (adapters : Adapters) : List Text := Text.sort (adapters.entries.map Prod.fst)

/-- Whether a name is bound. -/
def isRegistered (adapters : Adapters) (name : Text) : Bool := (adapters.entries.lookup name).isSome

/-- The grammar of the adapter that a connection asks for. -/
def find (adapters : Adapters) (type : Text) : Except AdapterError Grammar :=
  if type.isEmpty then .error .typeRequired
  else
    match adapters.entries.lookup type with
    | some g => .ok g
    | none => .error (.unknown type adapters.list)

/-- The adapters of the four engines. -/
def standard : Adapters :=
  ⟨[("mysql", Engine.mysql.grammar), ("mariadb", Engine.mysql.grammar),
    ("postgres", Engine.postgres.grammar), ("sqlite", Engine.sqlite.grammar),
    ("sqlserver", Engine.sqlserver.grammar), ("mssql", Engine.sqlserver.grammar)]⟩

end Adapters

end DatePattern
