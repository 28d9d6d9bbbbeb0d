import DatePattern.Yaml.Node
import DatePattern.Yaml.Spelling

/-!
# Reading documents

A document read as a value, or a mapping of it read as a record of texts. What is not asked
for is not read, so a fault in it does not show.

- A mapping must not have a key twice.
- The key `<<` takes over the pairs of one mapping or of a list of them, behind the mapping's
  own pairs. A key that is there already keeps its value.
- An alias is read as the node it stands for. An alias that is met again while it is read makes
  the document circular, and a document that is nearly all copies is refused.

Each function takes fuel for the depth of nodes and aliases. An alias is never inside itself,
so the square of the size of the document covers it.
-/

namespace DatePattern.Yaml

/-! ### Cost -/

/-- How much was read. -/
structure Cost where
  /-- The nodes that were read. -/
  nodes : Nat := 0
  /-- Those of them inside aliases. -/
  copies : Nat := 0

/-- Whether copies make up too much of what was read: 99 of a hundred up to 400000 nodes, one of
ten from 4000000 nodes on, and evenly less between. -/
def Cost.isExcessive (cost : Cost) : Bool :=
  let allowed : Nat :=
    if cost.nodes ≤ 400000 then 99 * 3600000
    else if 4000000 ≤ cost.nodes then 10 * 3600000
    else 99 * 3600000 - 89 * (cost.nodes - 400000)
  100 < cost.copies && 1000 < cost.nodes && allowed * cost.nodes < cost.copies * 360000000

/-- Reading, with its cost. -/
abbrev Reading := StateT Cost (Except Fault)

/-- A place in a document that is being read. -/
structure View where
  document : Document
  /-- The aliases that the place is inside of. -/
  followed : List Nat := []

namespace View

/-- Counts a node. -/
def count (view : View) : Reading Unit := do
  let cost ← get
  let copies := if view.followed.isEmpty then cost.copies else cost.copies + 1
  let cost : Cost := { nodes := cost.nodes + 1, copies }
  if cost.isExcessive then throw .excessive
  set cost

/-- Goes to the node of an alias. -/
def follow (view : View) (site target : Nat) : Except Fault (View × Node) :=
  if view.followed.contains site then .error .circular
  else
    match view.document.node? target with
    | some node => .ok ({ view with followed := site :: view.followed }, node)
    | none => .error .unknownAlias

/-- The fuel that always covers a document. -/
def fuel (view : View) : Nat := (view.document.size + 4) * (view.document.size + 4)

end View

/-! ### Keys -/

/-- A key of a mapping: the tag of its value and its text. -/
structure Key where
  tag : Text
  text : Text
  deriving DecidableEq, Repr

/-- A key that is a text. -/
def Key.ofText (text : Text) : Key := ⟨"!!str", text⟩

/-- The key that a value makes; a list or a mapping makes none. -/
def Key.ofValue (value : Value) : Except Fault Key :=
  match value.key? with
  | some text => .ok ⟨value.tag, text⟩
  | none => .error .mismatch

/-- Whether two key nodes count as the same key. -/
def Node.sameKey : Node → Node → Bool
  | .scalar _ _ _ a, .scalar _ _ _ b => a == b
  | .sequence _ _ _, .sequence _ _ _ => true
  | .mapping _ _ _, .mapping _ _ _ => true
  | .alias _ a _ _, .alias _ b _ _ => a == b
  | _, _ => false

/-- Whether a mapping has a key twice. -/
def hasDuplicate : List (Node × Node) → Bool
  | [] => false
  | (key, _) :: rest => rest.any (fun (other, _) => key.sameKey other) || hasDuplicate rest

/-- Whether a key node asks for the pairs of other mappings. -/
def Node.isMerge : Node → Bool
  | .scalar _ tag plain text =>
    text == "<<" && (tag == "!!merge" || (plain && (tag.isEmpty || tag == "!")))
  | _ => false

/-- The tag of a node, or the one that its form implies. -/
def Node.impliedTag : Node → Text
  | .scalar _ tag plain text =>
    if !(tag.isEmpty || tag = "!") then tag
    else if !plain then "!!str"
    else if text = "<<" then "!!merge"
    else (spelled [] text).tag
  | .sequence _ tag _ => if tag.isEmpty || tag = "!" then "!!seq" else tag
  | .mapping _ tag _ => if tag.isEmpty || tag = "!" then "!!map" else tag
  | .alias _ _ _ _ => []

/-- The node itself, or the one that an alias stands for. -/
def Document.resolved (document : Document) : Node → Node
  | .alias line name site target =>
    (document.node? target).getD (.alias line name site target)
  | node => node

/-- Whether all keys of a mapping are texts. -/
def Document.hasTextKeys (document : Document) (entries : List (Node × Node)) : Bool :=
  entries.all fun (key, _) =>
    let tag := (document.resolved key).impliedTag
    tag == "!!str" || tag == "!!merge"

/-- Whether a node is a mapping, or an alias of one. -/
def Document.isMapping (document : Document) (node : Node) : Bool :=
  match document.resolved node with
  | .mapping _ _ _ => true
  | _ => false

/-! ### Mappings -/

/-- How the pairs of a mapping are read into something. -/
structure Reader (σ : Type) where
  /-- The key that a key node makes in this reading, if any. -/
  key : View → Node → Reading (Option Key)
  /-- The key that a key node makes by itself. -/
  ownKey : View → Node → Reading Key
  /-- Adds a pair, given the keys of the same mapping before it. -/
  add : View → List Key → σ → Key → Node → Reading σ

namespace Reader

variable {σ : Type}

/-- Reads the own pairs of a mapping. `taken` are the keys that are there already, when the
mapping is taken over by another; such a pair is passed over. -/
def ownPairs (reader : Reader σ) (view : View) :
    (taken : Option (List Key)) → (before : List Key) → σ → List (Node × Node) →
      Reading (Option (List Key) × σ)
  | taken, _, result, [] => return (taken, result)
  | taken, before, result, (key, node) :: rest => do
    if key.isMerge then reader.ownPairs view taken before result rest
    else
      match ← reader.key view key with
      | none => reader.ownPairs view taken before result rest
      | some key =>
        if taken.any (·.contains key) then reader.ownPairs view taken before result rest
        else
          let result ← reader.add view before result key node
          reader.ownPairs view (taken.map (key :: ·)) (key :: before) result rest

/-- Reads the pairs of a mapping: its own, then those it takes over. -/
def pairs (reader : Reader σ) : (fuel : Nat) → View → (taken : Option (List Key)) → σ →
    List (Node × Node) → Reading (Option (List Key) × σ)
  | 0, _, _, _, _ => throw .circular
  | fuel + 1, view, taken, result, entries => do
    if hasDuplicate entries then throw .duplicateKey
    let (taken, result) ← reader.ownPairs view taken [] result entries
    match entries.find? fun (key, _) => key.isMerge with
    | none => return (taken, result)
    | some (_, source) =>
      let present ←
        match taken with
        | some keys => pure keys
        | none => entries.mapM fun (key, _) => reader.ownKey view key
      let sources :=
        match source with
        | .sequence _ _ items => items
        | node => [node]
      let (present, result) ← sources.foldlM (fun (present, result) node => do
        if !view.document.isMapping node then throw .mismatch
        view.count
        let (view, node) ←
          match node with
          | .alias _ _ site target => do
            let (view, node) ← view.follow site target
            view.count
            pure (view, node)
          | node => pure (view, node)
        match node with
        | .mapping _ _ entries =>
          let (more, result) ← reader.pairs fuel view (some present) result entries
          return (more.getD present, result)
        | _ => throw .mismatch) (present, result)
      return (taken.map fun _ => present, result)

end Reader

/-! ### Values -/

/-- The text of a node where only a text will do; none for null. -/
def View.text? (view : View) (node : Node) : Reading (Option Text) := do
  view.count
  match node with
  | .scalar _ tag plain text => scalarText tag plain text
  | .alias _ _ site target =>
    let (view, node) ← view.follow site target
    view.count
    match node with
    | .scalar _ tag plain text => scalarText tag plain text
    | _ => throw .mismatch
  | _ => throw .mismatch

/-- The key of a mapping whose keys are texts: the text as it is written. -/
def View.textKey (view : View) (node : Node) : Reading (Option Key) :=
  return (← view.text? node).map Key.ofText

/-- How the pairs of a mapping of values are read, when values are read by `value`. -/
def valueReader (value : View → Node → Reading Value) (textKeys : Bool) :
    Reader (List (Text × Value)) where
  key view node := if textKeys then view.textKey node else do
    return some (← Key.ofValue (← value view node))
  ownKey view node := do Key.ofValue (← value view node)
  add view _ result key node := do return setPair (key.text, ← value view node) result

/-- The value of a node. -/
def View.value : (fuel : Nat) → View → Node → Reading Value
  | 0, _, _ => throw .circular
  | fuel + 1, view, node => do
    view.count
    match node with
    | .scalar _ tag plain text => scalarValue tag plain text
    | .sequence _ _ items => return .list (← items.mapM (View.value fuel view))
    | .mapping _ _ entries =>
      let reader := valueReader (View.value fuel) (view.document.hasTextKeys entries)
      return .map (← reader.pairs fuel view none [] entries).2
    | .alias _ _ site target =>
      let (view, node) ← view.follow site target
      View.value fuel view node

/-! ### Documents -/

/-- The pairs of a document that must be a mapping or null. Its keys are texts. -/
def Document.pairs (document : Document) : Reading (List (Text × Value)) := do
  let view : View := { document }
  view.count
  view.count
  match document.root with
  | .mapping _ _ entries =>
    let reader := valueReader (View.value view.fuel) true
    return (← reader.pairs view.fuel view none [] entries).2
  | .scalar _ tag plain text =>
    match ← scalarValue tag plain text with
    | .null => return []
    | _ => throw .mismatch
  | _ => throw .mismatch

/-- The pairs of a text that must be a mapping or nothing. -/
def documentPairs (text : Text) : Except Fault (List (Text × Value)) := do
  match ← parse text with
  | none => return []
  | some document => return (← document.pairs.run {}).1

/-! ### Records -/

/-- How the fields of a record of texts are read. A field must not be given twice, other names
are passed over, and null leaves a field as it is. -/
def fieldReader (fuel : Nat) (names : List Text) : Reader (List (Text × Text)) where
  key view node := view.textKey node
  ownKey view node := do Key.ofValue (← View.value fuel view node)
  add view before record key node := do
    if !names.contains key.text then return record
    else if before.contains key then throw .duplicateKey
    else
      match ← view.text? node with
      | some text => return (key.text, text) :: record
      | none => return record

/-- The fields of a mapping of a document that have one of the names. -/
def Document.fields (document : Document) (names : List Text) (entries : List (Node × Node)) :
    Except Fault (List (Text × Text)) := do
  let view : View := { document }
  let reading : Reading (List (Text × Text)) := do
    view.count
    return (← (fieldReader view.fuel names).pairs view.fuel view none [] entries).2
  return (← reading.run {}).1

end DatePattern.Yaml
