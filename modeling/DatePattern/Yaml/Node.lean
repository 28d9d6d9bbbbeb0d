import DatePattern.Yaml.Token

/-!
# Nodes

The first document of a YAML text. A node knows the line it starts on and its tag, in short
form. A node with an anchor has a number; an alias names the number of the node it stands for,
which may be a node around it.

Each function on tokens takes fuel; a multiple of the number of characters always covers it.
-/

namespace DatePattern.Yaml

/-- A node of a document. -/
inductive Node where
  /-- A scalar, and whether it is plain. -/
  | scalar (line : Nat) (tag : Text) (plain : Bool) (text : Text)
  | sequence (line : Nat) (tag : Text) (items : List Node)
  | mapping (line : Nat) (tag : Text) (entries : List (Node × Node))
  /-- An alias: its own number and that of the node it stands for. -/
  | alias (line : Nat) (name : Text) (site target : Nat)

/-- The line a node starts on, from 1. -/
def Node.line : Node → Nat
  | .scalar line _ _ _ => line
  | .sequence line _ _ => line
  | .mapping line _ _ => line
  | .alias line _ _ _ => line

/-- A document. -/
structure Document where
  root : Node
  /-- The nodes with anchors, by their numbers. -/
  anchored : List (Nat × Node)
  /-- The number of characters it was read from. -/
  size : Nat

/-- The node with a number. -/
def Document.node? (document : Document) (number : Nat) : Option Node :=
  document.anchored.lookup number

/-- The state of building nodes. -/
structure Builder where
  /-- Where the tokens come from. -/
  scanner : Scanner
  /-- How many numbers were given to nodes. -/
  numbered : Nat := 0
  /-- The anchors and the numbers of their nodes, the latest first. -/
  anchors : List (Text × Nat) := []
  /-- The finished nodes with anchors, by their numbers. -/
  anchored : List (Nat × Node) := []
  /-- Tag handles and what they stand for. -/
  handles : List (Text × Text) := []

/-- Building from tokens. -/
abbrev Build := StateT Builder (Except Fault)

namespace Build

/-- The next token. -/
def peek : Build Token := do
  let s ← get
  let scanner ← s.scanner.ready
  set { s with scanner }
  match scanner.queue with
  | token :: _ => return token
  | [] => throw .malformed

/-- Passes a token. -/
def skip : Build Unit := modify fun s => { s with scanner := s.scanner.take }

/-- A number that no node has yet. -/
def newNumber : Build Nat := do
  let s ← get
  set { s with numbered := s.numbered + 1 }
  return s.numbered

/-- A scalar without text. -/
def empty (line : Nat) : Node := .scalar (line + 1) [] true []

/-- The short form of a tag. -/
def shortTag (tag : Text) : Text :=
  let standard : Text := "tag:yaml.org,2002:"
  if standard.isPrefixOf tag then "!!" ++ tag.drop standard.length else tag

/-- The short form of a tag from its handle and suffix. -/
def tagOf (handle suffix : Text) : Build Text := do
  if handle.isEmpty then return shortTag suffix
  else
    match (← get).handles.lookup handle with
    | some expansion => return shortTag (expansion ++ suffix)
    | none => throw .malformed

/-- Reads an anchor and a tag in either order. -/
def properties : Build (Option Text × Text) := do
  match (← peek).kind with
  | .anchor name =>
    skip
    match (← peek).kind with
    | .tag handle suffix => do skip; return (some name, ← tagOf handle suffix)
    | _ => return (some name, [])
  | .tag handle suffix =>
    skip
    let tag ← tagOf handle suffix
    match (← peek).kind with
    | .anchor name => do skip; return (some name, tag)
    | _ => return (none, tag)
  | _ => return (none, [])

/-- Binds an anchor to the node that starts here, and gives the number of the node. -/
def openAnchor (anchor : Option Text) : Build (Option Nat) :=
  match anchor with
  | some name => do
    let number ← newNumber
    modify fun s => { s with anchors := (name, number) :: s.anchors }
    return some number
  | none => pure none

/-- Keeps a finished node under its number, if it has one. -/
def closeAnchor (number : Option Nat) (node : Node) : Build Node :=
  match number with
  | some number => do
    modify fun s => { s with anchored := (number, node) :: s.anchored }
    return node
  | none => pure node

/-- The alias that a name stands for. -/
def aliasOf (line : Nat) (name : Text) : Build Node := do
  match (← get).anchors.lookup name with
  | some target => return .alias line name (← newNumber) target
  | none => throw .unknownAlias

mutual

/-- Builds a node. `block` allows blocks, `entries` allows a sequence at the indentation of
the mapping around it. -/
def node (block entries : Bool) : (fuel : Nat) → Build Node
  | 0 => throw .malformed
  | fuel + 1 => do
    let first ← peek
    match first.kind with
    | .alias name =>
      skip
      aliasOf (first.line + 1) name
    | _ =>
      let (anchor, tag) ← properties
      let number ← openAnchor anchor
      let line := first.line + 1
      match (← peek).kind with
      | .scalar text plain =>
        skip
        closeAnchor number (.scalar line tag plain text)
      | .flowSequenceStart =>
        skip
        let items ← flowSequence true fuel
        closeAnchor number (.sequence line tag items)
      | .flowMappingStart =>
        skip
        let pairs ← flowMapping true fuel
        closeAnchor number (.mapping line tag pairs)
      | .blockEntry =>
        if entries then
          let items ← openSequence fuel
          closeAnchor number (.sequence line tag items)
        else if anchor.isSome || !tag.isEmpty then
          closeAnchor number (.scalar line tag true [])
        else throw .malformed
      | .sequenceStart =>
        if block then
          skip
          let items ← blockSequence fuel
          closeAnchor number (.sequence line tag items)
        else if anchor.isSome || !tag.isEmpty then
          closeAnchor number (.scalar line tag true [])
        else throw .malformed
      | .mappingStart =>
        if block then
          skip
          let pairs ← blockMapping fuel
          closeAnchor number (.mapping line tag pairs)
        else if anchor.isSome || !tag.isEmpty then
          closeAnchor number (.scalar line tag true [])
        else throw .malformed
      | _ =>
        if anchor.isSome || !tag.isEmpty then closeAnchor number (.scalar line tag true [])
        else throw .malformed

/-- Builds the items of a block sequence up to its end. -/
def blockSequence : (fuel : Nat) → Build (List Node)
  | 0 => throw .malformed
  | fuel + 1 => do
    let mark ← peek
    match mark.kind with
    | .blockEntry =>
      skip
      let item ←
        match (← peek).kind with
        | .blockEntry | .blockEnd => pure (empty mark.line)
        | _ => node true false fuel
      return item :: (← blockSequence fuel)
    | .blockEnd => do skip; return []
    | _ => throw .malformed

/-- Builds the items of a sequence that shares its indentation with a mapping. -/
def openSequence : (fuel : Nat) → Build (List Node)
  | 0 => throw .malformed
  | fuel + 1 => do
    let mark ← peek
    match mark.kind with
    | .blockEntry =>
      skip
      let item ←
        match (← peek).kind with
        | .blockEntry | .key | .value | .blockEnd => pure (empty mark.line)
        | _ => node true false fuel
      return item :: (← openSequence fuel)
    | _ => return []

/-- Builds the pairs of a block mapping up to its end. -/
def blockMapping : (fuel : Nat) → Build (List (Node × Node))
  | 0 => throw .malformed
  | fuel + 1 => do
    let mark ← peek
    match mark.kind with
    | .key =>
      skip
      let key ←
        match (← peek).kind with
        | .key | .value | .blockEnd => pure (empty mark.line)
        | _ => node true true fuel
      let value ← blockValue fuel
      return (key, value) :: (← blockMapping fuel)
    | .blockEnd => do skip; return []
    | _ => throw .malformed

/-- Builds the value behind a key of a block mapping. -/
def blockValue : (fuel : Nat) → Build Node
  | 0 => throw .malformed
  | fuel + 1 => do
    let mark ← peek
    match mark.kind with
    | .value =>
      skip
      match (← peek).kind with
      | .key | .value | .blockEnd => return empty mark.line
      | _ => node true true fuel
    | _ => return empty mark.line

/-- Builds the items of a sequence in brackets. -/
def flowSequence (first : Bool) : (fuel : Nat) → Build (List Node)
  | 0 => throw .malformed
  | fuel + 1 => do
    if (← peek).kind = .flowSequenceEnd then do skip; return []
    if !first then
      if (← peek).kind = .flowEntry then skip else throw .malformed
    let mark ← peek
    match mark.kind with
    | .flowSequenceEnd => do skip; return []
    | .key =>
      skip
      let pair ← flowPair fuel
      return .mapping (mark.line + 1) [] [pair] :: (← flowSequence false fuel)
    | _ =>
      let item ← node false false fuel
      return item :: (← flowSequence false fuel)

/-- Builds a single pair inside a sequence in brackets. -/
def flowPair : (fuel : Nat) → Build (Node × Node)
  | 0 => throw .malformed
  | fuel + 1 => do
    let mark ← peek
    let key ←
      match mark.kind with
      | .value | .flowEntry | .flowSequenceEnd => do skip; pure (empty mark.line)
      | _ => node false false fuel
    let next ← peek
    match next.kind with
    | .value =>
      skip
      match (← peek).kind with
      | .flowEntry | .flowSequenceEnd => return (key, empty next.line)
      | _ => return (key, ← node false false fuel)
    | _ => return (key, empty next.line)

/-- Builds the pairs of a mapping in braces. -/
def flowMapping (first : Bool) : (fuel : Nat) → Build (List (Node × Node))
  | 0 => throw .malformed
  | fuel + 1 => do
    if (← peek).kind = .flowMappingEnd then do skip; return []
    if !first then
      if (← peek).kind = .flowEntry then skip else throw .malformed
    let mark ← peek
    match mark.kind with
    | .flowMappingEnd => do skip; return []
    | .key =>
      skip
      let key ←
        match (← peek).kind with
        | .value | .flowEntry | .flowMappingEnd => pure (empty mark.line)
        | _ => node false false fuel
      let next ← peek
      let value ←
        match next.kind with
        | .value => do
          skip
          match (← peek).kind with
          | .flowEntry | .flowMappingEnd => pure (empty next.line)
          | _ => node false false fuel
        | _ => pure (empty next.line)
      return (key, value) :: (← flowMapping false fuel)
    | _ =>
      let key ← node false false fuel
      return (key, empty mark.line) :: (← flowMapping false fuel)

end

/-- Reads the directives in front of a document. -/
def directives : (fuel : Nat) → (version : Bool) → Build Unit
  | 0, _ => throw .malformed
  | fuel + 1, version => do
    match (← peek).kind with
    | .version understood =>
      if version || !understood then throw .malformed
      skip
      directives fuel true
    | .tagDirective handle expansion =>
      if ((← get).handles.lookup handle).isSome then throw .malformed
      skip
      modify fun s => { s with handles := (handle, expansion) :: s.handles }
      directives fuel version
    | _ => return ()

/-- Adds the tag handles that every document has. -/
def standardHandles : Build Unit :=
  modify fun s =>
    let standard : List (Text × Text) := [("!", "!"), ("!!", "tag:yaml.org,2002:")]
    { s with handles := s.handles ++ standard }

/-- Builds the first document, if there is one. -/
def document (fuel : Nat) : Build (Option Node) := do
  let first ← peek
  match first.kind with
  | .streamEnd => return none
  | .version _ | .tagDirective _ _ | .documentStart =>
    directives fuel false
    standardHandles
    if (← peek).kind != .documentStart then throw .malformed
    skip
    let start ← peek
    match start.kind with
    | .version _ | .tagDirective _ _ | .documentStart | .documentEnd | .streamEnd =>
      return some (empty start.line)
    | _ => return some (← node true false fuel)
  | _ =>
    standardHandles
    return some (← node true false fuel)

/-- Builds the first document and looks at what comes behind it, whatever that is. -/
def documentAndEnd (fuel : Nat) : Build (Option Node) := do
  match ← document fuel with
  | none => return none
  | some root =>
    let _ ← peek
    return some root

end Build

/-- The first document of a text, if there is one. -/
def parse (text : Text) : Except Fault (Option Document) := do
  let chars ← charsOf text
  let build := Build.documentAndEnd (16 * (chars.length + 4))
  let (root?, s) ← build.run { scanner := Scanner.ofChars chars }
  return root?.map fun root => { root, anchored := s.anchored, size := chars.length }

end DatePattern.Yaml
