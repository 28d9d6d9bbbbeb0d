import DatePattern.Yaml.Scalar

/-!
# Tokens

A YAML text as tokens, read no further than the reader of the tokens asks. Indentation becomes
tokens that open and close blocks. A mapping key has no mark of its own, so the place where
one may have started is remembered, and the tokens for it are put there once its colon is
found; this must happen on the same line and within 1024 characters.

Tokens wait in a queue until they are taken. Before one is taken there are three in the
queue, and if a key may have started at the first of them, the text is read until that is
decided. What lies beyond is never looked at, so a fault there stays unseen.
-/

namespace DatePattern.Yaml

/-- What a token is. -/
inductive TokenKind where
  | streamEnd
  /-- A version directive, and whether the version is understood. -/
  | version (understood : Bool)
  /-- A tag directive: a handle and what it stands for. -/
  | tagDirective (handle expansion : Text)
  | documentStart
  | documentEnd
  | sequenceStart
  | mappingStart
  | blockEnd
  | flowSequenceStart
  | flowSequenceEnd
  | flowMappingStart
  | flowMappingEnd
  | blockEntry
  | flowEntry
  | key
  | value
  | alias (name : Text)
  | anchor (name : Text)
  /-- A tag: its handle and its suffix. -/
  | tag (handle suffix : Text)
  /-- A scalar, and whether it is plain. -/
  | scalar (text : Text) (plain : Bool)
  deriving DecidableEq, Repr

/-- A token and the line it starts on. -/
structure Token where
  kind : TokenKind
  /-- The line, from 0. -/
  line : Nat
  deriving DecidableEq, Repr

/-- A place where a mapping key may have started. -/
structure KeyPlace where
  /-- The number of the token there; tokens are numbered as they are taken. -/
  number : Nat
  /-- Whether a colon may still make it a key. -/
  possible : Bool := false
  /-- Whether nothing but a key may stand there. -/
  required : Bool := false
  index : Nat := 0
  line : Nat := 0
  column : Nat := 0

/-- The state of the scanner. -/
structure Scanner where
  cursor : Cursor
  /-- The number of characters of the text, which bounds every loop over it. -/
  size : Nat
  /-- The tokens that wait, in order. -/
  queue : List Token := []
  /-- How many tokens were taken. -/
  taken : Nat := 0
  /-- The indentation of the innermost block, -1 outside of all. -/
  indent : Int := -1
  /-- The indentations of the blocks around it. -/
  indents : List Int := []
  /-- Where a key may have started, for each open bracket from the innermost, then for the
  block around them. -/
  keys : List KeyPlace := [{ number := 0 }]
  /-- The numbers of the tokens that the reader must not take before it is known whether a key
  starts there, each with the number of brackets open around it. -/
  awaited : List (Nat × Nat) := []
  /-- Whether a key may start here. -/
  keyAllowed : Bool := true
  /-- Whether the text starts with a byte order mark after the one that was dropped. The first
  character of every line then counts for nothing. -/
  marked : Bool := false

namespace Scanner

/-- How many brackets are open. -/
def depth (s : Scanner) : Nat := s.keys.length - 1

/-- Whether the scanner is inside brackets. -/
def inFlow (s : Scanner) : Bool := 0 < s.depth

/-- The number of the next token. -/
def nextNumber (s : Scanner) : Nat := s.taken + s.queue.length

/-- Adds a token that starts here. -/
def push (s : Scanner) (kind : TokenKind) : Scanner :=
  { s with queue := s.queue ++ [⟨kind, s.cursor.line⟩] }

/-- Puts a token in front of the one with a number, or at the end if that one was taken. -/
def insert (s : Scanner) (number : Nat) (token : Token) : Scanner :=
  if number < s.taken then { s with queue := s.queue ++ [token] }
  else
    let ahead := number - s.taken
    { s with queue := s.queue.take ahead ++ [token] ++ s.queue.drop ahead }

/-- Adds a token and passes `n` characters. -/
def pushAndSkip (s : Scanner) (kind : TokenKind) (n : Nat) : Scanner :=
  let s := s.push kind
  { s with cursor := s.cursor.skip n }

/-- Takes the first token of the queue away. -/
def take (s : Scanner) : Scanner := { s with queue := s.queue.drop 1, taken := s.taken + 1 }

/-! ### Indentation -/

/-- Closes the blocks indented more than a column. -/
def unroll (column : Int) : List Int → Scanner → Scanner
  | [], s => s
  | outer :: outers, s =>
    if !s.inFlow && column < s.indent then
      unroll column outers { s.push .blockEnd with indent := outer, indents := outers }
    else s

/-- Closes the blocks indented more than a column. -/
def unrollTo (s : Scanner) (column : Int) : Scanner := unroll column s.indents s

/-- The number of blocks, and of brackets, that may be open inside each other. -/
def maxDepth : Nat := 10000

/-- Opens a block at a column that is indented more than the innermost one; its token goes in
front of the token with a number. -/
def roll (s : Scanner) (column number line : Nat) (kind : TokenKind) : Except Fault Scanner :=
  if !s.inFlow && s.indent < column then
    if maxDepth ≤ s.indents.length then .error .malformed
    else
      let s := s.insert number ⟨kind, line⟩
      .ok { s with indent := column, indents := s.indent :: s.indents }
  else .ok s

/-- Opens a block here. -/
def rollHere (s : Scanner) (kind : TokenKind) : Except Fault Scanner :=
  s.roll s.cursor.column s.nextNumber s.cursor.line kind

/-! ### Keys -/

/-- No longer waits for what the token with a number is, nor for tokens that were taken. -/
def forget (s : Scanner) (number : Nat) : Scanner :=
  { s with awaited := s.awaited.filter fun (other, _) => other != number && s.taken ≤ other }

/-- Gives up the innermost place where a key may have started; a required key is then
missing. -/
def removeKey (s : Scanner) : Except Fault Scanner :=
  match s.keys with
  | place :: rest =>
    if !place.possible then .ok s
    else if place.required then .error .malformed
    else .ok { s.forget place.number with keys := { place with possible := false } :: rest }
  | [] => .ok s

/-- Remembers that a key may start here. -/
def saveKey (s : Scanner) : Except Fault Scanner :=
  if s.keyAllowed then do
    let place : KeyPlace :=
      { number := s.nextNumber, possible := true
        required := !s.inFlow && s.indent == s.cursor.column
        index := s.cursor.index, line := s.cursor.line, column := s.cursor.column }
    let s := (← s.removeKey).forget place.number
    return { s with
      keys := place :: s.keys.drop 1, awaited := (place.number, s.depth) :: s.awaited }
  else .ok s

/-- Whether a colon here would make a key of what started inside `depth` brackets. A place that
lies too far back is given up, and a required key is then missing. -/
def checkKey (s : Scanner) (depth : Nat) : Except Fault (Bool × Scanner) :=
  match s.keys[s.depth - depth]? with
  | none => .ok (false, s)
  | some place =>
    if !place.possible then .ok (false, s)
    else if place.line < s.cursor.line || place.index + 1024 < s.cursor.index then
      if place.required then .error .malformed
      else
        let keys := s.keys.set (s.depth - depth) { place with possible := false }
        .ok (false, { s with keys })
    else .ok (true, s)

/-- Opens a bracket. It counts as the place of a key itself until one starts inside. -/
def openBracket (s : Scanner) (kind : TokenKind) : Except Fault Scanner := do
  let s ← s.saveKey
  if maxDepth ≤ s.depth then throw .malformed
  let inner : KeyPlace := { number := s.nextNumber }
  return { s.pushAndSkip kind 1 with keys := inner :: s.keys, keyAllowed := true }

/-- Closes a bracket, and with it the wait for the last key inside. -/
def closeBracket (s : Scanner) (kind : TokenKind) : Except Fault Scanner := do
  let s ← s.removeKey
  let s :=
    match s.keys with
    | inner :: outer :: rest => { s.forget inner.number with keys := outer :: rest }
    | _ => s
  return { s.pushAndSkip kind 1 with keyAllowed := false }

/-! ### Comments and white space -/

/-- The characters that may stand between two comments that are read together. -/
def betweenComments (c : Char) : Bool := isSpace c || c = '\n' || c = '\r'

/-- Passes a comment, and further comments that only white space stands between. -/
def skipComments : (fuel : Nat) → Cursor → Cursor
  | 0, cursor => cursor
  | fuel + 1, cursor =>
    if cursor.peek 0 = some '#' then
      let cursor := cursor.skipWhile (!isBreak ·)
      if ((cursor.rest.take 512).dropWhile betweenComments).head? = some '#' then
        match readGap 0 512 {} cursor with
        | .ok (_, next) => skipComments fuel next
        | .error _ => cursor
      else cursor
    else cursor

/-- Passes white space and comments up to the next token. -/
def toNext : (fuel : Nat) → Scanner → Scanner
  | 0, s => s
  | fuel + 1, s =>
    let cursor :=
      if s.marked && s.cursor.column = 0 && !s.cursor.rest.isEmpty then s.cursor.skip 1
      else s.cursor
    let tabs := s.inFlow || !s.keyAllowed
    let cursor := cursor.skipWhile fun c => c = ' ' || (tabs && c = '\t')
    let cursor := skipComments s.size cursor
    if (cursor.peek 0).any isBreak then
      toNext fuel
        { s with cursor := cursor.takeBreak.2, keyAllowed := s.keyAllowed || !s.inFlow }
    else { s with cursor }

/-- Passes a comment behind a token on its line. -/
def skipLineComment (s : Scanner) : Scanner :=
  let blanks := s.cursor.rest.takeWhile isSpace
  let cursor := s.cursor.skip blanks.length
  if blanks.length < 512 && cursor.peek 0 = some '#' then
    { s with cursor := cursor.skipWhile (!isBreak ·) }
  else s

/-! ### Names -/

/-- Whether a character may stand in the name of an anchor or a handle. -/
def isWord (c : Char) : Bool := c.isAlphanum || c = '_' || c = '-'

/-- Whether a character may stand in a tag. -/
def isTagChar (c : Char) : Bool :=
  isWord c || [';', '/', '?', ':', '@', '&', '=', '+', '$', ',', '.', '!', '~', '*', '\'', '(',
    ')', '[', ']'].contains c

/-- Reads the name of an anchor or an alias behind its indicator. -/
def anchorName (cursor : Cursor) : Except Fault (Text × Cursor) :=
  let name := cursor.rest.takeWhile isWord
  let next := cursor.skip name.length
  let ends :=
    match next.peek 0 with
    | none => true
    | some c => isSpace c || isBreak c || ['?', ':', ',', ']', '}', '%', '@', '`'].contains c
  if name.isEmpty || !ends then .error .malformed else .ok (Text.ofChars name, next)

/-- The byte of a percent escape. -/
def escapedByte? : List Char → Option UInt8
  | '%' :: rest => (hexNumber? 2 0 rest).map UInt8.ofNat
  | _ => none

/-- How many bytes a character takes, by its first one. -/
def byteCount? (first : UInt8) : Option Nat :=
  if first < 0x80 then some 1
  else if first < 0xC0 then none
  else if first < 0xE0 then some 2
  else if first < 0xF0 then some 3
  else if first < 0xF8 then some 4
  else none

/-- The bytes of a character written in percent escapes. -/
def escapedBytes? (chars : List Char) : Option Text := do
  let first ← escapedByte? chars
  let count ← byteCount? first
  let others ← (List.range (count - 1)).mapM fun i => do
    let b ← escapedByte? (chars.drop (3 * (i + 1)))
    if Utf8.isTail b then some b else none
  return first :: others

/-- Reads the characters of a tag, percent escapes included. -/
def tagChars : (fuel : Nat) → (read : Text) → Cursor → Except Fault (Text × Cursor)
  | 0, read, cursor => .ok (read, cursor)
  | fuel + 1, read, cursor =>
    match cursor.rest with
    | '%' :: _ =>
      match escapedBytes? cursor.rest with
      | some bytes => tagChars fuel (read ++ bytes) (cursor.skip (3 * bytes.length))
      | none => .error .malformed
    | c :: _ =>
      if isTagChar c then tagChars fuel (read ++ Text.ofChar c) (cursor.skip 1)
      else .ok (read, cursor)
    | [] => .ok (read, cursor)

/-- Reads a tag at its exclamation mark: handle and suffix. -/
def tagParts (cursor : Cursor) : Except Fault (Text × Text × Cursor) := do
  let (handle, suffix, next) ←
    if cursor.peek 1 = some '<' then
      let start := cursor.skip 2
      let (suffix, next) ← tagChars start.rest.length [] start
      if suffix.isEmpty || next.peek 0 != some '>' then throw .malformed
      else pure (([] : Text), suffix, next.skip 1)
    else
      let word := (cursor.skip 1).rest.takeWhile isWord
      let next := cursor.skip (1 + word.length)
      if next.peek 0 = some '!' then
        let start := next.skip 1
        let (suffix, next) ← tagChars start.rest.length [] start
        if suffix.isEmpty then throw .malformed
        else pure ((0x21 :: Text.ofChars word ++ [0x21] : Text), suffix, next)
      else
        let (suffix, next) ← tagChars next.rest.length (Text.ofChars word) next
        if suffix.isEmpty then pure (([] : Text), ([0x21] : Text), next)
        else pure (([0x21] : Text), suffix, next)
  if isGap (next.peek 0) then return (handle, suffix, next) else throw .malformed

/-- Whether only white space and a comment are left on a line, and the place after it. -/
def lineEnd (cursor : Cursor) : Except Fault Cursor :=
  let cursor := cursor.skipWhile isSpace
  let cursor := if cursor.peek 0 = some '#' then cursor.skipWhile (!isBreak ·) else cursor
  match cursor.peek 0 with
  | none => .ok cursor
  | some c => if isBreak c then .ok cursor.takeBreak.2 else .error .malformed

/-- Reads a directive behind its percent sign. -/
def directive (cursor : Cursor) : Except Fault (TokenKind × Cursor) := do
  let name := cursor.rest.takeWhile isWord
  let next := cursor.skip name.length
  if name.isEmpty || !isGap (next.peek 0) then throw .malformed
  let arguments := next.skipWhile isSpace
  if name = ['Y', 'A', 'M', 'L'] then
    let major := arguments.rest.takeWhile Char.isDigit
    let point := arguments.skip major.length
    let minor := (point.skip 1).rest.takeWhile Char.isDigit
    if major.isEmpty || 2 < major.length || point.peek 0 != some '.' || minor.isEmpty
        || 2 < minor.length then
      throw .malformed
    let next ← lineEnd (point.skip (1 + minor.length))
    let understood := (major.dropWhile (· = '0') == ['1']) && (minor.dropWhile (· = '0') == ['1'])
    return (.version understood, next)
  else if name = ['T', 'A', 'G'] then
    if arguments.peek 0 != some '!' then throw .malformed
    let word := (arguments.skip 1).rest.takeWhile isWord
    let point := arguments.skip (1 + word.length)
    let (handle, next) ←
      if point.peek 0 = some '!' then
        pure ((0x21 :: Text.ofChars word ++ [0x21] : Text), point.skip 1)
      else if word.isEmpty then pure (([0x21] : Text), point)
      else throw .malformed
    if !(next.peek 0).any isSpace then throw .malformed
    let start := next.skipWhile isSpace
    let (expansion, next) ← tagChars start.rest.length [] start
    if expansion.isEmpty || !isGap (next.peek 0) then throw .malformed
    let next ← lineEnd next
    return (.tagDirective handle expansion, next)
  else throw .malformed

/-! ### One token -/

/-- Reads a token that may start a key: an anchor, a tag or a scalar on a line. -/
def keyable (s : Scanner) (read : Cursor → Except Fault (TokenKind × Cursor)) :
    Except Fault Scanner := do
  let s ← s.saveKey
  let (kind, cursor) ← read s.cursor
  return skipLineComment { s.push kind with cursor, keyAllowed := false }

/-- Reads a plain scalar. -/
def plainScalar (s : Scanner) : Except Fault Scanner := do
  let s ← s.saveKey
  let (read, broken, cursor) ←
    plainFrom s.inFlow (s.indent + 1) (s.size + 1) [] {} s.cursor
  let s := { s.push (.scalar (Text.ofChars read) true) with cursor, keyAllowed := broken }
  return if broken then s else s.skipLineComment

/-- Reads a colon that makes a value. -/
def valueMark (s : Scanner) : Except Fault Scanner := do
  let (isKey, s) ← s.checkKey s.depth
  match isKey, s.keys with
  | true, place :: rest =>
    let s := s.insert place.number ⟨.key, place.line⟩
    let s ← s.roll place.column place.number place.line .mappingStart
    let s := s.forget place.number
    let s := { s with keys := { place with possible := false } :: rest, keyAllowed := false }
    return s.pushAndSkip .value 1
  | _, _ =>
    if s.inFlow then return { s.pushAndSkip .value 1 with keyAllowed := false }
    else if !s.keyAllowed then throw .malformed
    else
      let s ← s.rollHere .mappingStart
      return { s.pushAndSkip .value 1 with keyAllowed := true }

/-- The characters that stand for something else where a scalar may start. -/
def indicators : List Char :=
  [',', '[', ']', '{', '}', '#', '&', '*', '!', '|', '>', '\'', '"', '%', '@', '`']

/-- Whether a plain scalar may start with a character, given the one after it. A tab that was
not passed over stands where it may not. -/
def startsPlain (flow : Bool) (c : Char) (next : Option Char) : Bool :=
  if isSpace c then false
  else if c = '-' then !next.any isSpace
  else if c = '?' || c = ':' then !flow && !isGap next
  else !indicators.contains c

/-- Reads the token that starts with a character here. -/
def token (s : Scanner) (c : Char) : Except Fault Scanner := do
  let next := s.cursor.peek 1
  if s.cursor.column = 0 && c = '%' then
    let s ← (s.unrollTo (-1)).removeKey
    let (kind, cursor) ← directive (s.cursor.skip 1)
    return { s.push kind with cursor, keyAllowed := false }
  else if s.cursor.atDocument then
    let s ← (s.unrollTo (-1)).removeKey
    let kind : TokenKind := if c = '-' then .documentStart else .documentEnd
    return { s.pushAndSkip kind 3 with keyAllowed := false }
  else if c = '[' then return (← s.openBracket .flowSequenceStart).skipLineComment
  else if c = '{' then return (← s.openBracket .flowMappingStart).skipLineComment
  else if c = ']' then return (← s.closeBracket .flowSequenceEnd).skipLineComment
  else if c = '}' then return (← s.closeBracket .flowMappingEnd).skipLineComment
  else if c = ',' then
    let s ← s.removeKey
    return skipLineComment { s.pushAndSkip .flowEntry 1 with keyAllowed := true }
  else if c = '-' && isGap next then
    if !s.inFlow && !s.keyAllowed then throw .malformed
    let s ← (← s.rollHere .sequenceStart).removeKey
    return { s.pushAndSkip .blockEntry 1 with keyAllowed := true }
  else if c = '?' && (s.inFlow || isGap next) then
    if !s.inFlow && !s.keyAllowed then throw .malformed
    let s ← (← s.rollHere .mappingStart).removeKey
    return skipLineComment { s.pushAndSkip .key 1 with keyAllowed := !s.inFlow }
  else if c = ':' && (s.inFlow || isGap next) then return (← s.valueMark).skipLineComment
  else if c = '*' then
    s.keyable fun cursor => do
      let (name, next) ← anchorName (cursor.skip 1)
      return (.alias name, next)
  else if c = '&' then
    s.keyable fun cursor => do
      let (name, next) ← anchorName (cursor.skip 1)
      return (.anchor name, next)
  else if c = '!' then
    s.keyable fun cursor => do
      let (handle, suffix, next) ← tagParts cursor
      return (.tag handle suffix, next)
  else if (c = '|' || c = '>') && !s.inFlow then
    let s ← s.removeKey
    let (read, cursor) ← blockScalar (c = '|') s.indent (s.cursor.skip 1)
    return { s.push (.scalar (Text.ofChars read) false) with cursor, keyAllowed := true }
  else if c = '\'' || c = '"' then
    s.keyable fun cursor => do
      let (read, next) ← quotedFrom (c = '\'') s.size [] (cursor.skip 1)
      return (.scalar (Text.ofChars read) false, next)
  else if startsPlain s.inFlow c next then s.plainScalar
  else throw .malformed

/-- Ends the text: closes its blocks and adds the token of its end. -/
def finish (s : Scanner) : Except Fault Scanner := do
  let line := if s.cursor.column = 0 then s.cursor.line else s.cursor.line + 1
  let s := { s with cursor := { s.cursor with line, column := 0 } }
  let s ← (s.unrollTo (-1)).removeKey
  return { s.push .streamEnd with keyAllowed := false }

/-- Reads one token, with the tokens that go with it. At the end of the text there is always
one more. -/
def fetch (s : Scanner) : Except Fault Scanner :=
  let s := toNext (s.size + 1) s
  let s := s.unrollTo s.cursor.column
  match s.cursor.peek 0 with
  | none => s.finish
  | some c => s.token c

/-- Whether the reader must wait: there are not three tokens yet, or a key may have started at
the first. -/
def isWaiting (s : Scanner) : Except Fault (Bool × Scanner) :=
  if s.queue.length < 3 then .ok (true, s)
  else
    match s.awaited.lookup s.taken with
    | some depth => s.checkKey depth
    | none => .ok (false, s)

/-- Reads tokens until the first of the queue may be taken. -/
def readAhead : (fuel : Nat) → Scanner → Except Fault Scanner
  | 0, s => .ok s
  | fuel + 1, s => do
    let (waiting, s) ← s.isWaiting
    if waiting then readAhead fuel (← s.fetch) else return s

/-- Reads tokens until the first of the queue may be taken. Every token has a character of its
own, the ends of the text apart. -/
def ready (s : Scanner) : Except Fault Scanner := readAhead (s.size + 8) s

/-- The scanner at the start of a text. -/
def ofChars (chars : List Char) : Scanner :=
  { cursor := { rest := chars }, size := chars.length
    marked := chars.head? == some byteOrderMark }

end Scanner

end DatePattern.Yaml
