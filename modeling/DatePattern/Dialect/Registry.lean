import DatePattern.Bindings
import DatePattern.Dialect.Grammar

/-!
# The registry of dialects

A registry finds a grammar by name or alias, in any case, and by number. A later
registration takes over the names and the number that it shares with an earlier one.
-/

namespace DatePattern

/-- The dialects known by name and by number. -/
structure Registry where
  /-- Lower-case names and aliases, each with its grammar. -/
  names : List (Text × Grammar) := []
  /-- Numbers, each with its grammar. -/
  kinds : List (Kind × Grammar) := []

namespace Registry

/-- Adds a grammar under its name, its aliases and its number. -/
def register (g : Grammar) (registry : Registry) : Registry :=
  { names := (g.name :: g.aliases).foldl (fun names name => Bindings.bind name.lower g names)
      registry.names
    kinds := Bindings.bind g.kind g registry.kinds }

/-- The grammar of a name or alias. -/
def get? (registry : Registry) (name : Text) : Option Grammar := registry.names.lookup name.lower

/-- The grammar of a number. -/
def ofKind? (registry : Registry) (kind : Kind) : Option Grammar := registry.kinds.lookup kind

/-- The grammar of a name: registered under it, or registered for the engine that the name
is an alias of. -/
def lookup (registry : Registry) (name : Text) : Except DialectError Grammar :=
  if name.isEmpty then .error .required
  else
    match registry.get? name with
    | some g => .ok g
    | none =>
      match Engine.parse name with
      | .error e => .error e
      | .ok engine =>
        match registry.ofKind? engine.kind with
        | some g => .ok g
        | none => .error (.unknownName name)

/-- The grammars of names in order, without repetition. `seen` are those met before. -/
def selectFrom (registry : Registry) (seen : List Grammar) :
    List Text → Except DialectError (List Grammar)
  | [] => .ok []
  | name :: rest => do
    let g ← registry.lookup name
    if seen.contains g then selectFrom registry seen rest
    else return g :: (← selectFrom registry (g :: seen) rest)

/-- The grammars of names in order, without repetition; there must be a name. -/
def select (registry : Registry) (names : List Text) : Except DialectError (List Grammar) :=
  if names.isEmpty then .error .required else registry.selectFrom [] names

/-- The names of the grammars registered by number, in bytewise order. -/
def list (registry : Registry) : List Text :=
  Text.sort (registry.kinds.map fun (_, g) => g.name)

/-- The four engines' grammars. -/
def standard : Registry :=
  Engine.all.foldl (fun registry engine => registry.register engine.grammar) {}

end Registry

end DatePattern
