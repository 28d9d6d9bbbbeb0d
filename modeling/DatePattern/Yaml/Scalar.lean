import DatePattern.Yaml.Cursor

/-!
# Scalars

The four ways to write a scalar: plain, quoted with single or double quotes, and as an
indented block. White space inside plain and quoted scalars folds: a single line end is a
space, and of several the first is dropped.

Every loop takes fuel, which the number of characters left always covers.
-/

namespace DatePattern.Yaml

/-- White space between two words of a scalar. -/
structure Gap where
  /-- Whether it holds the end of a line. -/
  broken : Bool := false
  /-- Spaces and tabs, when it does not. -/
  spaces : List Char := []
  /-- The first line end. -/
  first : List Char := []
  /-- The line ends after the first. -/
  more : List Char := []

/-- What a gap stands for. -/
def Gap.folded (gap : Gap) : List Char :=
  if gap.broken then
    if gap.first = ['\n'] then if gap.more.isEmpty then [' '] else gap.more
    else gap.first ++ gap.more
  else gap.spaces

/-- Reads white space. A tab left of `indent` at the front of a line is a fault. -/
def readGap (indent : Int) : (fuel : Nat) → Gap → Cursor → Except Fault (Gap × Cursor)
  | 0, gap, cursor => .ok (gap, cursor)
  | fuel + 1, gap, cursor =>
    match cursor.peek 0 with
    | none => .ok (gap, cursor)
    | some c =>
      if isSpace c then
        if gap.broken && (cursor.column : Int) < indent && c = '\t' then .error .malformed
        else if gap.broken then readGap indent fuel gap (cursor.skip 1)
        else readGap indent fuel { gap with spaces := gap.spaces ++ [c] } (cursor.skip 1)
      else if isBreak c then
        let (ending, next) := cursor.takeBreak
        if gap.broken then readGap indent fuel { gap with more := gap.more ++ ending } next
        else readGap indent fuel { gap with broken := true, spaces := [], first := ending } next
      else .ok (gap, cursor)

/-! ### Plain scalars -/

/-- The characters of a plain scalar up to white space or an indicator. -/
def plainWord (flow : Bool) : List Char → List Char
  | [] => []
  | c :: rest =>
    if isSpace c || isBreak c then []
    else if c = ':' && isGap rest.head? then []
    else if flow && [',', '?', '[', ']', '{', '}'].contains c then []
    else c :: plainWord flow rest

/-- Reads a plain scalar behind the words in `read`. Gives its characters, whether a line
ended behind it, and the place after it. -/
def plainFrom (flow : Bool) (indent : Int) :
    (fuel : Nat) → (read : List Char) → Gap → Cursor →
      Except Fault (List Char × Bool × Cursor)
  | 0, read, gap, cursor => .ok (read, gap.broken, cursor)
  | fuel + 1, read, gap, cursor =>
    if cursor.atDocument || cursor.peek 0 = some '#' then .ok (read, gap.broken, cursor)
    else
      let word := plainWord flow cursor.rest
      let cursor := cursor.skip word.length
      let (read, gap) : List Char × Gap :=
        if word.isEmpty then (read, gap) else (read ++ gap.folded ++ word, {})
      match cursor.peek 0 with
      | none => .ok (read, gap.broken, cursor)
      | some c =>
        if isSpace c || isBreak c then
          match readGap indent cursor.rest.length gap cursor with
          | .error e => .error e
          | .ok (gap, cursor) =>
            if !flow && (cursor.column : Int) < indent then .ok (read, gap.broken, cursor)
            else plainFrom flow indent fuel read gap cursor
        else .ok (read, gap.broken, cursor)

/-! ### Quoted scalars -/

/-- The value of a hexadecimal digit. -/
def hexValue? (c : Char) : Option Nat :=
  let n := c.toNat
  if 0x30 ≤ n && n ≤ 0x39 then some (n - 0x30)
  else if 0x41 ≤ n && n ≤ 0x46 then some (n - 0x37)
  else if 0x61 ≤ n && n ≤ 0x66 then some (n - 0x57)
  else none

/-- The number of `count` hexadecimal digits. -/
def hexNumber? : (count : Nat) → Nat → List Char → Option Nat
  | 0, value, _ => some value
  | _ + 1, _, [] => none
  | count + 1, value, c :: rest =>
    match hexValue? c with
    | some digit => hexNumber? count (value * 16 + digit) rest
    | none => none

/-- The character of an escape by number. -/
def escapedNumber? (count : Nat) (rest : List Char) : Option (Char × Nat) :=
  match hexNumber? count 0 rest with
  | some n =>
    if (0xD800 ≤ n && n ≤ 0xDFFF) || 0x10FFFF < n then none else some (Char.ofNat n, count + 2)
  | none => none

/-- The character of an escape in double quotes, by what follows the backslash, and the
number of characters the escape takes. -/
def escaped? : List Char → Option (Char × Nat)
  | [] => none
  | c :: rest =>
    match c with
    | '0' => some (Char.ofNat 0x00, 2)
    | 'a' => some (Char.ofNat 0x07, 2)
    | 'b' => some (Char.ofNat 0x08, 2)
    | 't' => some ('\t', 2)
    | '\t' => some ('\t', 2)
    | 'n' => some ('\n', 2)
    | 'v' => some (Char.ofNat 0x0B, 2)
    | 'f' => some (Char.ofNat 0x0C, 2)
    | 'r' => some ('\r', 2)
    | 'e' => some (Char.ofNat 0x1B, 2)
    | ' ' => some (' ', 2)
    | '"' => some ('"', 2)
    | '\'' => some ('\'', 2)
    | '\\' => some ('\\', 2)
    | 'N' => some (Char.ofNat 0x85, 2)
    | '_' => some (Char.ofNat 0xA0, 2)
    | 'L' => some (Char.ofNat 0x2028, 2)
    | 'P' => some (Char.ofNat 0x2029, 2)
    | 'x' => escapedNumber? 2 rest
    | 'u' => escapedNumber? 4 rest
    | 'U' => escapedNumber? 8 rest
    | _ => none

/-- Reads a quoted scalar, behind the opening quote, up to and with the closing one. -/
def quotedFrom (single : Bool) :
    (fuel : Nat) → (read : List Char) → Cursor → Except Fault (List Char × Cursor)
  | 0, _, _ => .error .malformed
  | fuel + 1, read, cursor =>
    if cursor.atDocument then .error .malformed
    else
      match cursor.rest with
      | [] => .error .malformed
      | c :: rest =>
        if isSpace c || isBreak c then
          match readGap 0 cursor.rest.length {} cursor with
          | .error e => .error e
          | .ok (gap, next) => quotedFrom single fuel (read ++ gap.folded) next
        else if single then
          if c = '\'' then
            if rest.head? = some '\'' then quotedFrom single fuel (read ++ ['\'']) (cursor.skip 2)
            else .ok (read, cursor.skip 1)
          else quotedFrom single fuel (read ++ [c]) (cursor.skip 1)
        else if c = '"' then .ok (read, cursor.skip 1)
        else if c = '\\' then
          if rest.head?.any isBreak then
            let (_, next) := (cursor.skip 1).takeBreak
            match readGap 0 next.rest.length { broken := true } next with
            | .error e => .error e
            | .ok (gap, next) => quotedFrom single fuel (read ++ gap.folded) next
          else
            match escaped? rest with
            | some (character, size) =>
              quotedFrom single fuel (read ++ [character]) (cursor.skip size)
            | none => .error .malformed
        else quotedFrom single fuel (read ++ [c]) (cursor.skip 1)

/-! ### Block scalars -/

/-- What happens to the line ends at the end of a block scalar. -/
inductive Chomp where
  /-- They are dropped. -/
  | strip
  /-- One is kept. -/
  | clip
  /-- All are kept. -/
  | keep
  deriving DecidableEq, Repr

/-- The chomping that a character stands for. -/
def chomp? : Option Char → Option Chomp
  | some '+' => some .keep
  | some '-' => some .strip
  | _ => none

/-- The indentation that a digit stands for; zero is a fault. -/
def increment? (c : Option Char) : Except Fault (Option Nat) :=
  match c with
  | some d =>
    if d = '0' then .error .malformed
    else if d.isDigit then .ok (some (d.toNat - 0x30))
    else .ok none
  | none => .ok none

/-- Reads the header of a block scalar up to the end of its line. -/
def blockHeader (cursor : Cursor) : Except Fault (Chomp × Nat × Cursor) := do
  let (chomp, increment, cursor) ←
    match chomp? (cursor.peek 0) with
    | some chomp =>
      match ← increment? (cursor.peek 1) with
      | some n => pure (chomp, n, cursor.skip 2)
      | none => pure (chomp, 0, cursor.skip 1)
    | none =>
      match ← increment? (cursor.peek 0) with
      | some n =>
        match chomp? (cursor.peek 1) with
        | some chomp => pure (chomp, n, cursor.skip 2)
        | none => pure (Chomp.clip, n, cursor.skip 1)
      | none => pure (Chomp.clip, 0, cursor)
  let cursor := cursor.skipWhile isSpace
  let cursor := if cursor.peek 0 = some '#' then cursor.skipWhile (!isBreak ·) else cursor
  match cursor.peek 0 with
  | none => return (chomp, increment, cursor)
  | some c => if isBreak c then return (chomp, increment, cursor.takeBreak.2) else throw .malformed

/-- Reads indentation and empty lines of a block scalar whose indentation is `indent`, or not
known yet when that is 0. Gives the line ends and the widest indentation. -/
def blockBreaks (indent : Nat) :
    (fuel : Nat) → (breaks : List Char) → (widest : Nat) → Cursor →
      Except Fault (List Char × Nat × Cursor)
  | 0, breaks, widest, cursor => .ok (breaks, widest, cursor)
  | fuel + 1, breaks, widest, cursor =>
    let room := if indent = 0 then cursor.rest.length else indent - cursor.column
    let cursor := cursor.skip ((cursor.rest.take room).takeWhile (· = ' ')).length
    let widest := max widest cursor.column
    match cursor.peek 0 with
    | none => .ok (breaks, widest, cursor)
    | some c =>
      if (indent = 0 || cursor.column < indent) && c = '\t' then .error .malformed
      else if isBreak c then
        let (ending, next) := cursor.takeBreak
        blockBreaks indent fuel (breaks ++ ending) widest next
      else .ok (breaks, widest, cursor)

/-- Reads the lines of a block scalar. `ending` is the line end of the line before, `breaks`
are those of the empty lines since, `blank` is whether the line before starts with white
space. Gives the characters, the last line end and the line ends after it. -/
def blockLines (literal : Bool) (indent : Nat) :
    (fuel : Nat) → (read ending breaks : List Char) → (blank : Bool) → Cursor →
      Except Fault (List Char × List Char × List Char × Cursor)
  | 0, read, ending, breaks, _, cursor => .ok (read, ending, breaks, cursor)
  | fuel + 1, read, ending, breaks, blank, cursor =>
    if cursor.column != indent || cursor.rest.isEmpty then .ok (read, ending, breaks, cursor)
    else
      let starts := (cursor.peek 0).any isSpace
      let joint :=
        if !literal && !blank && !starts && ending = ['\n'] then
          if breaks.isEmpty then [' '] else []
        else ending
      let line := cursor.rest.takeWhile (!isBreak ·)
      let (ending, next) := (cursor.skip line.length).takeBreak
      match blockBreaks indent next.rest.length [] 0 next with
      | .error e => .error e
      | .ok (more, _, next) =>
        blockLines literal indent fuel (read ++ joint ++ breaks ++ line) ending more starts next

/-- Reads a block scalar behind its indicator, inside a block of indentation `parent`. -/
def blockScalar (literal : Bool) (parent : Int) (cursor : Cursor) :
    Except Fault (List Char × Cursor) := do
  let (chomp, increment, cursor) ← blockHeader cursor
  let given := if increment = 0 then 0 else (max parent 0).toNat + increment
  let (breaks, widest, cursor) ← blockBreaks given (cursor.rest.length + 1) [] 0 cursor
  let indent := if given = 0 then max (max widest (parent + 1).toNat) 1 else given
  let (read, ending, breaks, cursor) ←
    blockLines literal indent (cursor.rest.length + 1) [] [] breaks false cursor
  let tail :=
    match chomp with
    | .strip => []
    | .clip => ending
    | .keep => ending ++ breaks
  return (read ++ tail, cursor)

end DatePattern.Yaml
