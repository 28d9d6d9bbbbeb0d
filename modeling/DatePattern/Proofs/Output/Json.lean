import DatePattern.Output.Json
import DatePattern.Proofs.Number.Signed
import DatePattern.Proofs.Text.Utf8

/-!
# JSON read back

A reader of JSON that goes over a document byte by byte, with what a value stands inside of on a
stack. It knows the escapes of JSON, of numbers the whole ones as they are written, and no
surrogates. A document that was written is read as the value it was written from, in which each
stray byte of a text has become U+FFFD.

- `Json.read?`: the value of a document;
- `Json.run_quote`, `Json.run_word`: a quoted text and a word are read as one lexeme each;
- `Json.run_write`: a value is read inside of anything, by recursion on the value;
- `Json.read?_document`: a document is read back.
-/

namespace DatePattern

/-- A text with U+FFFD for each of its stray bytes. -/
def Text.repaired (text : Text) : Text := Text.ofChars text.chars

namespace Output.Json

/-! ## The reader -/

/-- What a document is made of, apart from blanks. -/
inductive Lexeme where
  | openList
  | closeList
  | openRecord
  | closeRecord
  | colon
  | comma
  | text (t : Text)
  | word (w : Text)

/-- What a value stands inside of, with what stands before it. -/
inductive Frame where
  | list (items : List Json)
  | record (fields : List (Text × Json)) (name : Text)

/-- Where a reader stands: before a value, before the name of a field, behind it or behind a
value. -/
inductive Place where
  | value (outer : List Frame)
  | field (fields : List (Text × Json)) (outer : List Frame)
  | named (fields : List (Text × Json)) (name : Text) (outer : List Frame)
  | behind (v : Json) (outer : List Frame)

/-- The value of a word. -/
def word? (w : Text) : Option Json :=
  if w = "null" then some .null
  else if w = "true" then some (.bool true)
  else if w = "false" then some (.bool false)
  else (Decimal.toInt? w).bind fun n => if Decimal.ofInt n = w then some (.int n) else none

/-- Where a lexeme leads to. -/
def Place.next : Place → Lexeme → Option Place
  | .value outer, .text t => some (.behind (.text t) outer)
  | .value outer, .word w => (word? w).map (.behind · outer)
  | .value outer, .openList => some (.value (.list [] :: outer))
  | .value (.list [] :: outer), .closeList => some (.behind (.list []) outer)
  | .value outer, .openRecord => some (.field [] outer)
  | .field [] outer, .closeRecord => some (.behind (.record []) outer)
  | .field fields outer, .text name => some (.named fields name outer)
  | .named fields name outer, .colon => some (.value (.record fields name :: outer))
  | .behind v (.list items :: outer), .comma => some (.value (.list (items ++ [v]) :: outer))
  | .behind v (.list items :: outer), .closeList => some (.behind (.list (items ++ [v])) outer)
  | .behind v (.record fields name :: outer), .comma =>
    some (.field (fields ++ [(name, v)]) outer)
  | .behind v (.record fields name :: outer), .closeRecord =>
    some (.behind (.record (fields ++ [(name, v)])) outer)
  | _, _ => none

/-- Whether a byte is a blank. -/
def isBlank (b : UInt8) : Bool := b = 0x20 || b = 0x0A || b = 0x0D || b = 0x09

/-- The lexeme of a byte that is one by itself. -/
def mark? (b : UInt8) : Option Lexeme :=
  if b = 0x5B then some .openList
  else if b = 0x5D then some .closeList
  else if b = 0x7B then some .openRecord
  else if b = 0x7D then some .closeRecord
  else if b = 0x3A then some .colon
  else if b = 0x2C then some .comma
  else none

/-- The byte that a letter behind a backslash stands for. -/
def escaped? (b : UInt8) : Option UInt8 :=
  if b = 0x22 || b = 0x5C || b = 0x2F then some b
  else if b = 0x62 then some 0x08
  else if b = 0x66 then some 0x0C
  else if b = 0x6E then some 0x0A
  else if b = 0x72 then some 0x0D
  else if b = 0x74 then some 0x09
  else none

/-- Whether a byte is a hexadecimal digit. -/
def isHexDigit (b : UInt8) : Bool :=
  (0x30 ≤ b && b ≤ 0x39) || (0x41 ≤ b && b ≤ 0x46) || (0x61 ≤ b && b ≤ 0x66)

/-- What a reader is in the middle of. -/
inductive Mode where
  | between
  | word (read : Text)
  | text (read : Text)
  /-- In a text, behind a backslash. -/
  | escape (read : Text)
  /-- In a text, in the number of a character. -/
  | code (read digits : Text)

/-- Reads a byte between lexemes. -/
def stepBetween (place : Place) (b : UInt8) : Option (Mode × Place) :=
  if isBlank b then some (.between, place)
  else
    match mark? b with
    | some lexeme => (place.next lexeme).map (Mode.between, ·)
    | none => some (if b = 0x22 then .text [] else .word [b], place)

/-- Whether a byte ends a word. -/
def endsWord (b : UInt8) : Bool := isBlank b || (mark? b).isSome

/-- Reads a byte. -/
def step : Mode × Place → UInt8 → Option (Mode × Place)
  | (.between, place), b => stepBetween place b
  | (.word read, place), b =>
    if endsWord b then (place.next (.word read)).bind (stepBetween · b)
    else some (.word (read ++ [b]), place)
  | (.text read, place), b =>
    if b = 0x22 then (place.next (.text read)).map (Mode.between, ·)
    else if b = 0x5C then some (.escape read, place)
    else if b < 0x20 then none
    else some (.text (read ++ [b]), place)
  | (.escape read, place), b =>
    if b = 0x75 then some (.code read [], place)
    else (escaped? b).map fun meant => (.text (read ++ [meant]), place)
  | (.code read digits, place), b =>
    if !isHexDigit b then none
    else if digits.length < 3 then some (.code read (digits ++ [b]), place)
    else
      let number := Text.natOfHex (digits ++ [b])
      if number.isValidChar then some (.text (read ++ Text.ofChar (Char.ofNat number)), place)
      else none

/-- Reads bytes one after the other. -/
def run (state : Mode × Place) (text : Text) : Option (Mode × Place) := text.foldlM step state

/-- The value of a document, if it is one. The line feed ends a word. -/
def read? (text : Text) : Option Json :=
  match run (.between, .value []) (text ++ "\n") with
  | some (.between, .behind v []) => some v
  | _ => none

/-- Whether a byte stands in a word: it neither ends one nor opens a text. -/
def isFree (b : UInt8) : Bool := !endsWord b && b != 0x22

/-- What ends a word starts with a byte that does. -/
def Ends (rest : Text) : Prop := ∃ b tail, rest = b :: tail ∧ endsWord b = true

/-! ## Lexemes -/

section

variable {place : Place}

theorem run_append (state : Mode × Place) (front rest : Text) :
    run state (front ++ rest) = (run state front).bind (run · rest) :=
  List.foldlM_append

theorem run_cons (state : Mode × Place) (b : UInt8) (rest : Text) :
    run state (b :: rest) = (step state b).bind (run · rest) :=
  List.foldlM_cons

theorem run_newLine (depth : Nat) (rest : Text) :
    run (.between, place) (newLine depth ++ rest) = run (.between, place) rest := by
  have blanks (n : Nat) :
      run (.between, place) (Text.repeated n 0x20 ++ rest) = run (.between, place) rest := by
    induction n with
    | zero => rfl
    | succ n ih => exact ih
  exact blanks (2 * depth)

/-- Bytes that need no escape are read as they are. -/
theorem run_plain {bytes : Text} (plain : ∀ b ∈ bytes, b ≠ 0x22 ∧ b ≠ 0x5C ∧ ¬b < 0x20)
    (read : Text) : run (.text read, place) bytes = some (.text (read ++ bytes), place) := by
  induction bytes generalizing read with
  | nil => rw [List.append_nil]; rfl
  | cons b rest ih =>
    obtain ⟨⟨quote, backslash, low⟩, plainRest⟩ := List.forall_mem_cons.mp plain
    have one : step (.text read, place) b = some (.text (read ++ [b]), place) := by
      rw [step, if_neg quote, if_neg backslash, if_neg low]
    rw [run_cons, one, Option.bind_some, ih plainRest, List.append_assoc, List.singleton_append]

theorem hex_four (n : Nat) : Text.hex 4 n = [Text.hexDigit (n / 4096 % 16),
    Text.hexDigit (n / 256 % 16), Text.hexDigit (n / 16 % 16), Text.hexDigit (n / 1 % 16)] := rfl

theorem natOfHex_hex {n : Nat} (small : n < 0x10000) : Text.natOfHex (Text.hex 4 n) = n := by
  have digit : ∀ d < 16, Text.hexValue (Text.hexDigit d) = d := by decide
  have value (d : Nat) : Text.hexValue (Text.hexDigit (d % 16)) = d % 16 :=
    digit _ (Nat.mod_lt _ (by decide))
  simp only [Text.natOfHex, hex_four, List.foldl_cons, List.foldl_nil, value]
  omega

theorem run_code {a b c d : UInt8} {n : Nat} (hex : ([a, b, c, d] : Text).all isHexDigit = true)
    (number : Text.natOfHex [a, b, c, d] = n) (valid : n.isValidChar) (read : Text) :
    run (.code read [], place) [a, b, c, d]
      = some (.text (read ++ Text.ofChar (Char.ofNat n)), place) := by
  simp only [List.all_cons, List.all_nil, Bool.and_true, Bool.and_eq_true] at hex
  obtain ⟨ha, hb, hc, hd⟩ := hex
  simp [run, step, ha, hb, hc, hd, number, valid]

theorem run_numbered {n : Nat} (small : n < 0x10000) (valid : n.isValidChar) (read : Text) :
    run (.text read, place) (numbered n)
      = some (.text (read ++ Text.ofChar (Char.ofNat n)), place) := by
  have digit : ∀ d < 16, isHexDigit (Text.hexDigit d) = true := by decide
  have isDigit (d : Nat) : isHexDigit (Text.hexDigit (d % 16)) = true :=
    digit _ (Nat.mod_lt _ (by decide))
  have hex : (Text.hex 4 n).all isHexDigit = true := by
    simp only [hex_four, List.all_cons, List.all_nil, isDigit, Bool.and_self]
  exact run_code hex (natOfHex_hex small) valid read

theorem run_charText (c : Char) (read : Text) :
    run (.text read, place) (charText c) = some (.text (read ++ Text.ofChar c), place) := by
  unfold charText
  split_ifs with quote backslash feed back tab eight twelve special
  · rw [quote]; rfl
  · rw [backslash]; rfl
  · rw [feed]; rfl
  · rw [back]; rfl
  · rw [tab]; rfl
  · rw [show c = Char.ofNat 8 from Char.toNat_inj.mp eight]; rfl
  · rw [show c = Char.ofNat 12 from Char.toNat_inj.mp twelve]; rfl
  · have small : c.toNat < 0x10000 := by
      simp only [Bool.or_eq_true, decide_eq_true_eq] at special
      rcases special with ((((low | rfl) | rfl) | rfl) | line) | paragraph
      · omega
      · decide
      · decide
      · decide
      · omega
      · omega
    rw [run_numbered small c.valid, Char.ofNat_toNat]
  · refine run_plain (fun b mem => ?_) read
    -- a byte below 0x80 is the character itself, and that one needs no escape
    have itself (low : b.toNat < 0x80) : c.toNat = b.toNat :=
      (Utf8.shape_of_ascii (Utf8.shape_encode c) mem low).2
    refine ⟨?_, ?_, ?_⟩
    · rintro rfl
      exact quote (Char.toNat_inj.mp (itself (by decide)))
    · rintro rfl
      exact backslash (Char.toNat_inj.mp (itself (by decide)))
    · intro low
      have below : b.toNat < 0x20 := low
      refine special ?_
      rw [itself (by omega)]
      simp [below]

theorem run_symbols (symbols : List Symbol) (read : Text) :
    run (.text read, place) (symbols.flatMap symbolText)
      = some (.text (read ++ Text.ofChars (symbols.map Symbol.toChar)), place) := by
  induction symbols generalizing read with
  | nil =>
    show some _ = some (Mode.text (read ++ []), place)
    rw [List.append_nil]
  | cons symbol rest ih =>
    have one : run (.text read, place) (symbolText symbol)
        = some (.text (read ++ Text.ofChar symbol.toChar), place) := by
      cases symbol with
      | char c => exact run_charText c read
      | stray b => exact run_numbered (by decide) (by decide) read
    rw [List.flatMap_cons, run_append, one, Option.bind_some, ih, List.map_cons, Text.ofChars_cons,
      List.append_assoc]

/-- A quoted text is read as one lexeme. -/
theorem run_quote (text rest : Text) :
    run (.between, place) (quote text ++ rest)
      = (place.next (.text text.repaired)).bind fun place => run (.between, place) rest := by
  have inside : run (.text [], place) (text.symbols.flatMap symbolText)
      = some (.text text.repaired, place) := run_symbols text.symbols []
  show run (.text [], place) ((text.symbols.flatMap symbolText ++ "\"") ++ rest) = _
  rw [List.append_assoc, run_append, inside]
  show ((place.next (.text text.repaired)).map (Mode.between, ·)).bind (run · rest) = _
  rw [Option.bind_map]
  rfl

theorem isFree_iff (b : UInt8) : isFree b = true ↔ endsWord b = false ∧ b ≠ 0x22 := by
  rw [isFree, Bool.and_eq_true, Bool.not_eq_true', bne_iff_ne]

theorem run_wordBytes {bytes : Text} (free : bytes.all isFree = true) (read : Text) :
    run (.word read, place) bytes = some (.word (read ++ bytes), place) := by
  induction bytes generalizing read with
  | nil => rw [List.append_nil]; rfl
  | cons b rest ih =>
    rw [List.all_cons, Bool.and_eq_true, isFree_iff] at free
    obtain ⟨⟨goesOn, -⟩, freeRest⟩ := free
    have one : step (.word read, place) b = some (.word (read ++ [b]), place) := by
      rw [step, if_neg (by rw [goesOn]; decide)]
    rw [run_cons, one, Option.bind_some, ih freeRest, List.append_assoc, List.singleton_append]

/-- A word is read as one lexeme when what follows ends it. -/
theorem run_word {word : Text} (some : word ≠ []) (free : word.all isFree = true) {rest : Text}
    (ends : Ends rest) :
    run (.between, place) (word ++ rest)
      = (place.next (.word word)).bind fun place => run (.between, place) rest := by
  obtain ⟨first, tail, rfl⟩ := List.exists_cons_of_ne_nil some
  obtain ⟨b, after, rfl, endsHere⟩ := ends
  rw [List.all_cons, Bool.and_eq_true, isFree_iff] at free
  obtain ⟨⟨starts, bare⟩, freeTail⟩ := free
  rw [endsWord, Bool.or_eq_false_iff, Option.isSome_eq_false_iff, Option.isNone_iff_eq_none]
    at starts
  have start : step (.between, place) first = .some (.word [first], place) := by
    rw [step, stepBetween, if_neg (by rw [starts.1]; decide), starts.2, if_neg bare]
  -- the byte that ends the word is read a second time, between lexemes
  have last : step (.word (first :: tail), place) b
      = (place.next (.word (first :: tail))).bind (stepBetween · b) := by
    rw [step, if_pos endsHere]
  rw [List.cons_append, run_cons, start, Option.bind_some, run_append, run_wordBytes freeTail,
    Option.bind_some, List.singleton_append, run_cons, last, Option.bind_assoc]
  rfl

end

/-! ## Values -/

mutual

/-- A value with its texts repaired. -/
def repaired : Json → Json
  | .null => .null
  | .bool b => .bool b
  | .int n => .int n
  | .text t => .text t.repaired
  | .list items => .list (repairedItems items)
  | .record fields => .record (repairedFields fields)

/-- Items with their texts repaired. -/
def repairedItems : List Json → List Json
  | [] => []
  | item :: rest => item.repaired :: repairedItems rest

/-- Fields with their texts repaired. -/
def repairedFields : List (Text × Json) → List (Text × Json)
  | [] => []
  | (name, value) :: rest => (name.repaired, value.repaired) :: repairedFields rest

end

/-- The name of a field is read with its colon. -/
theorem run_name (fields : List (Text × Json)) (name : Text) (outer : List Frame) (rest : Text) :
    run (.between, .field fields outer) (quote name ++ (": " ++ rest))
      = run (.between, .value (.record fields name.repaired :: outer)) rest := by
  have named : (Place.field fields outer).next (.text name.repaired)
      = some (.named fields name.repaired outer) := by
    cases fields <;> rfl
  rw [run_quote, named]
  rfl

/-- A word is read as the value it stands for. -/
theorem run_literal {word : Text} {v : Json} (free : word.all isFree = true)
    (meant : word? word = some v) (outer : List Frame) {rest : Text} (ends : Ends rest) :
    run (.between, .value outer) (word ++ rest) = run (.between, .behind v outer) rest := by
  have given : word ≠ [] := by
    rintro rfl
    cases meant
  rw [run_word given free ends, Place.next, meant]
  rfl

theorem isFree_ofInt (n : Int) : (Decimal.ofInt n).all isFree = true := by
  have digits : ∀ d < 10, isFree (Decimal.digit d) = true := by decide
  have run (m : Nat) : (Decimal.ofNat m).all isFree = true := by
    refine List.all_eq_true.mpr fun b mem => ?_
    have digit := Decimal.isDigit_ofNat m b mem
    rw [← Decimal.digit_digitValue digit]
    exact digits _ (Decimal.digitValue_lt digit)
  cases n with
  | ofNat m => exact run m
  | negSucc m => exact run (m + 1)

theorem word?_ofInt (n : Int) : word? (Decimal.ofInt n) = some (.int n) := by
  have read := Decimal.toInt?_ofInt n
  have other {w : Text} (h : Decimal.toInt? w = none) : Decimal.ofInt n ≠ w := by
    rintro rfl
    cases h.symm.trans read
  rw [word?, if_neg (other (by decide)), if_neg (other (by decide)), if_neg (other (by decide)),
    read, Option.bind_some, if_pos rfl]

theorem ends_newLine (depth : Nat) (rest : Text) : Ends (newLine depth ++ rest) :=
  ⟨0x0A, _, rfl, rfl⟩

theorem ends_writeItems (depth : Nat) (items : List Json) {rest : Text} (ends : Ends rest) :
    Ends (writeItems depth items ++ rest) := by
  cases items with
  | nil => rwa [writeItems]
  | cons item items =>
    rw [writeItems]
    exact ⟨0x2C, _, rfl, rfl⟩

theorem ends_writeFields (depth : Nat) (fields : List (Text × Json)) {rest : Text}
    (ends : Ends rest) : Ends (writeFields depth fields ++ rest) := by
  cases fields with
  | nil => rwa [writeFields]
  | cons field fields =>
    rw [writeFields]
    exact ⟨0x2C, _, rfl, rfl⟩

-- Of a list the first item is read as a value, and the others together with the closing bracket, as
-- the last item is not known to be the last before it; the same for the fields of a record.
mutual

/-- A value is read wherever one is expected. -/
theorem run_write : (v : Json) → ∀ (depth : Nat) (outer : List Frame) {rest : Text}, Ends rest →
    run (.between, .value outer) (v.write depth ++ rest)
      = run (.between, .behind v.repaired outer) rest
  | .null, _, outer, _, ends => by
    rw [write, repaired]
    exact run_literal (by decide) rfl outer ends
  | .bool true, _, outer, _, ends => by
    rw [write, repaired]
    exact run_literal (by decide) rfl outer ends
  | .bool false, _, outer, _, ends => by
    rw [write, repaired]
    exact run_literal (by decide) rfl outer ends
  | .int n, _, outer, _, ends => by
    rw [write, repaired]
    exact run_literal (isFree_ofInt n) (word?_ofInt n) outer ends
  | .text t, _, outer, _, _ => by
    rw [write, repaired, run_quote]
    rfl
  | .list [], _, outer, _, _ => by
    rw [write, repaired, repairedItems]
    rfl
  | .list (item :: items), depth, outer, rest, _ => by
    rw [write, repaired, repairedItems]
    simp only [List.append_assoc]
    show run (.between, .value (.list [] :: outer)) (newLine (depth + 1) ++ _) = _
    rw [run_newLine, run_write item _ _ (ends_writeItems _ _ (ends_newLine _ _)),
      run_writeItems items depth]
    rfl
  | .record [], _, outer, _, _ => by
    rw [write, repaired, repairedFields]
    rfl
  | .record ((name, value) :: fields), depth, outer, rest, _ => by
    rw [write, repaired, repairedFields]
    simp only [List.append_assoc]
    show run (.between, .field [] outer) (newLine (depth + 1) ++ _) = _
    rw [run_newLine, run_name, run_write value _ _ (ends_writeFields _ _ (ends_newLine _ _)),
      run_writeFields fields depth]
    rfl

/-- The items after the first are read up to the end of their list. -/
theorem run_writeItems : (items : List Json) → ∀ (depth : Nat) (v : Json) (before : List Json)
    (outer : List Frame) (rest : Text),
    run (.between, .behind v (.list before :: outer))
        (writeItems (depth + 1) items ++ (newLine depth ++ ("]" ++ rest)))
      = run (.between, .behind (.list (before ++ v :: repairedItems items)) outer) rest
  | [], depth, v, before, outer, rest => by
    rw [writeItems, repairedItems, List.nil_append, run_newLine]
    rfl
  | item :: items, depth, v, before, outer, rest => by
    rw [writeItems, repairedItems]
    simp only [List.append_assoc]
    show run (.between, .value (.list (before ++ [v]) :: outer)) (newLine (depth + 1) ++ _) = _
    rw [run_newLine, run_write item _ _ (ends_writeItems _ _ (ends_newLine _ _)),
      run_writeItems items depth, List.append_assoc]
    rfl

/-- The fields after the first are read up to the end of their record. -/
theorem run_writeFields : (fields : List (Text × Json)) → ∀ (depth : Nat) (name : Text) (v : Json)
    (before : List (Text × Json)) (outer : List Frame) (rest : Text),
    run (.between, .behind v (.record before name :: outer))
        (writeFields (depth + 1) fields ++ (newLine depth ++ ("\x7d" ++ rest)))
      = run (.between, .behind (.record (before ++ (name, v) :: repairedFields fields)) outer) rest
  | [], depth, name, v, before, outer, rest => by
    rw [writeFields, repairedFields, List.nil_append, run_newLine]
    rfl
  | (next, value) :: fields, depth, name, v, before, outer, rest => by
    rw [writeFields, repairedFields]
    simp only [List.append_assoc]
    show run (.between, .field (before ++ [(name, v)]) outer) (newLine (depth + 1) ++ _) = _
    rw [run_newLine, run_name, run_write value _ _ (ends_writeFields _ _ (ends_newLine _ _)),
      run_writeFields fields depth, List.append_assoc]
    rfl

end

/-- A document is read as the value it was written from, with its texts repaired. -/
theorem read?_document (v : Json) : read? v.document = some v.repaired := by
  have whole : run (.between, .value []) (v.document ++ "\n")
      = some (.between, .behind v.repaired []) := by
    have ends : Ends ("\n" ++ "\n") := ⟨0x0A, _, rfl, rfl⟩
    rw [document, List.append_assoc, run_write v 0 [] ends]
    rfl
  rw [read?, whole]

/-! ## Parts of a value -/

/-- The value of a field. -/
def field? (name : Text) : Json → Option Json
  | .record fields => (fields.find? (·.1 = name)).map Prod.snd
  | _ => none

/-- The text of a field. -/
def textAt? (name : Text) (v : Json) : Option Text :=
  match v.field? name with
  | some (.text t) => some t
  | _ => none

/-- The items of a field, which null has none of. -/
def itemsAt? {α : Type} (read : Json → Option α) (name : Text) (v : Json) : Option (List α) :=
  match v.field? name with
  | some .null => some []
  | some (.list items) => items.mapM read
  | _ => none

/-- Items are read back when each of them is. -/
theorem itemsAt?_listOrNull {α : Type} {write : α → Json} {read : Json → Option α} {repair : α → α}
    (readBack : ∀ x, read (write x).repaired = some (repair x)) {name : Text} {v : Json}
    {xs : List α} (found : v.field? name = some (listOrNull (xs.map write)).repaired) :
    v.itemsAt? read name = some (xs.map repair) := by
  have each (xs : List α) : (repairedItems (xs.map write)).mapM read = some (xs.map repair) := by
    induction xs with
    | nil => rfl
    | cons x xs ih =>
      rw [List.map_cons, repairedItems, List.mapM_cons, readBack, ih]
      rfl
  rw [itemsAt?, found]
  cases xs with
  | nil => rfl
  | cons x xs =>
    have list : (listOrNull ((x :: xs).map write)).repaired
        = .list (repairedItems ((x :: xs).map write)) := by
      show (Json.list _).repaired = _
      rw [repaired]
    rw [list]
    exact each (x :: xs)

end Output.Json

end DatePattern
