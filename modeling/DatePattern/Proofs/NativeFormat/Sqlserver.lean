import DatePattern.Proofs.NativeFormat.Parts

/-!
# Custom formats of SQL Server

`format` knows a specifier by its letter alone: a longest run of one letter is one specifier. Text
is kept apart from specifiers by backslashes, but two specifiers of the same letter that touch are
read as one longer specifier, and nothing is written between them.

- `Sqlserver.read`: the reader;
- `Sqlserver.isChain_of_readFrom`: what is read never has two specifiers of one letter side by
  side, whatever the text. So parts that have them cannot be written as one format at all;
- `Sqlserver.reads_parts`: parts that have none are read back.

Together they say exactly which native fragments are read as they were planned.
-/

namespace DatePattern

/-- Two specifiers that start with the same letter. -/
def Resolution.SharesLetter (a b : Resolution) : Prop :=
  a.manner = .native ∧ b.manner = .native ∧ a.native.chars.head? = b.native.chars.head?

instance : DecidableRel Resolution.SharesLetter :=
  fun a b => inferInstanceAs (Decidable (a.manner = .native ∧ b.manner = .native ∧ _))

namespace NativeFormat

namespace Sqlserver

/-! ## The reader -/

/-- Whether a letter is a specifier. -/
def isSpecifierLetter (c : Char) : Bool := "dfFghHKmMstyz".toList.contains c

/-- Reads the characters behind `skip` others that are already read: a backslash makes the next
character literal, a longest run of one specifier letter is a specifier, any other character is
itself. A backslash at the end cannot be read. -/
def readFrom : (skip : Nat) → List Char → Option (List FormatItem)
  | _, [] => some []
  | skip + 1, _ :: rest => readFrom skip rest
  | 0, c :: rest =>
    if c = '\\' then rest.head?.bind fun d => (readFrom 1 rest).map (.char d :: ·)
    else if isSpecifierLetter c then
      (readFrom (rest.takeWhile (· = c)).length rest).map
        (.field (Text.ofChars (c :: rest.takeWhile (· = c))) [] :: ·)
    else (readFrom 0 rest).map (.char c :: ·)

/-- Reads a whole format; a single character is no custom format. -/
def readChars (cs : List Char) : Option (List FormatItem) :=
  if cs.length = 1 then none else readFrom 0 cs

/-- What a format of `format` asks for. -/
def read (format : Text) : Option (List FormatItem) := FormatItem.readWith readChars format

theorem readFrom_eq_drop (skip : Nat) (cs : List Char) :
    readFrom skip cs = readFrom 0 (cs.drop skip) :=
  Utf8.eq_drop_of_skip (fun _ => readFrom) (fun _ skip => by cases skip <;> rfl)
    (fun _ _ _ _ => rfl) 0 skip cs

theorem readFrom_escaped (c : Char) (rest : List Char) :
    readFrom 0 ('\\' :: c :: rest) = (readFrom 0 rest).map (.char c :: ·) := rfl

theorem readFrom_char {c : Char} (backslash : c ≠ '\\') (letter : isSpecifierLetter c = false)
    (rest : List Char) : readFrom 0 (c :: rest) = (readFrom 0 rest).map (.char c :: ·) := by
  rw [readFrom, if_neg backslash, letter]
  rfl

theorem drop_takeWhile (p : Char → Bool) (cs : List Char) :
    cs.drop (cs.takeWhile p).length = cs.dropWhile p := by
  calc cs.drop (cs.takeWhile p).length
      = (cs.takeWhile p ++ cs.dropWhile p).drop (cs.takeWhile p).length := by
        rw [List.takeWhile_append_dropWhile]
    _ = cs.dropWhile p := List.drop_left

theorem readFrom_letter {c : Char} (letter : isSpecifierLetter c = true) (rest : List Char) :
    readFrom 0 (c :: rest) = (readFrom 0 (rest.dropWhile (· = c))).map
      (.field (Text.ofChars (c :: rest.takeWhile (· = c))) [] :: ·) := by
  have backslash : c ≠ '\\' := by
    rintro rfl
    exact absurd letter (by decide)
  rw [← drop_takeWhile, ← readFrom_eq_drop, readFrom, if_neg backslash, if_pos letter]

/-- A run of a letter that is not continued is one specifier. -/
theorem readFrom_run {c : Char} (letter : isSpecifierLetter c = true) (n : Nat) {rest : List Char}
    (ends : rest.head? ≠ some c) :
    readFrom 0 (List.replicate (n + 1) c ++ rest) = (readFrom 0 rest).map
      (.field (Text.ofChars (List.replicate (n + 1) c)) [] :: ·) := by
  have same : ∀ d ∈ List.replicate n c, decide (d = c) = true := by
    intro d mem
    exact decide_eq_true (List.eq_of_mem_replicate mem)
  have stop : rest.takeWhile (· = c) = [] ∧ rest.dropWhile (· = c) = rest := by
    cases rest with
    | nil => exact ⟨rfl, rfl⟩
    | cons d rest =>
      have other : d ≠ c := fun eq => ends (congrArg some eq)
      simp [other]
  rw [List.replicate_succ, List.cons_append, readFrom_letter letter,
    List.takeWhile_append_of_pos same, List.dropWhile_append_of_pos same, stop.1, stop.2,
    List.append_nil]

/-! ## What can be read -/

/-- Two items that are not specifiers of one letter. -/
def Apart : FormatItem → FormatItem → Prop
  | .field a _, .field b _ => a.chars.head? ≠ b.chars.head?
  | _, _ => True

/-- A specifier at the front of what is read starts with the letter at the front of the text. -/
theorem head_of_readFrom {cs : List Char} {specifier suffix : Text} {items : List FormatItem}
    (h : readFrom 0 cs = some (.field specifier suffix :: items)) :
    specifier.chars.head? = cs.head? := by
  cases cs with
  | nil => cases h
  | cons c rest =>
    by_cases letter : isSpecifierLetter c = true
    · rw [readFrom_letter letter, Option.map_eq_some_iff] at h
      obtain ⟨more, -, eq⟩ := h
      cases eq
      rw [Text.chars_ofChars]
      rfl
    · rw [readFrom, if_neg letter] at h
      split at h
      · cases rest with
        | nil => cases h
        | cons d rest =>
          obtain ⟨more, -, eq⟩ := Option.map_eq_some_iff.mp h
          cases eq
      · obtain ⟨more, -, eq⟩ := Option.map_eq_some_iff.mp h
        cases eq

/-- **Specifiers that are read stand apart**: no text is read as two specifiers of one letter side
by side. By recursion on the text: behind a longest run of a letter stands another character. -/
theorem isChain_of_readFrom {skip : Nat} {cs : List Char} {items : List FormatItem}
    (h : readFrom skip cs = some items) : items.IsChain Apart := by
  induction skip, cs using readFrom.induct generalizing items with
  | case1 skip =>
    cases h
    exact .nil
  | case2 skip c rest ih => exact ih h
  | case3 rest ih =>
    cases rest with
    | nil => cases h
    | cons d rest =>
      obtain ⟨more, read, rfl⟩ := Option.map_eq_some_iff.mp h
      exact List.isChain_cons.mpr ⟨fun next _ => trivial, ih read⟩
  | case4 c rest hc letter ih =>
    rw [readFrom, if_neg hc, if_pos letter] at h
    obtain ⟨more, read, rfl⟩ := Option.map_eq_some_iff.mp h
    refine List.isChain_cons.mpr ⟨?_, ih read⟩
    rw [readFrom_eq_drop, drop_takeWhile] at read
    intro next front
    cases next with
    | copied text => trivial
    | field specifier suffix =>
      obtain ⟨later, rfl⟩ := List.head?_eq_some_iff.mp front
      show (Text.ofChars (c :: rest.takeWhile (· = c))).chars.head? ≠ specifier.chars.head?
      rw [head_of_readFrom read, Text.chars_ofChars, List.head?_cons]
      -- the run of `c` was a longest one
      intro goesOn
      have stop := List.head?_dropWhile_not (fun d => decide (d = c)) rest
      rw [← goesOn] at stop
      simp at stop
  | case5 c rest hc letter ih =>
    rw [readFrom, if_neg hc, if_neg letter] at h
    obtain ⟨more, read, rfl⟩ := Option.map_eq_some_iff.mp h
    exact List.isChain_cons.mpr ⟨fun next _ => trivial, ih read⟩

/-! ## Writing -/

/-- A literal character as it stands in a format. -/
def escapedChar (c : Char) : List Char := if sqlserverEscapes c then ['\\', c] else [c]

/-- The characters of a part as it stands in a format. -/
def spelling (part : Resolution) : List Char :=
  if part.manner = .native then part.native.chars else part.token.text.chars.flatMap escapedChar

theorem escape_eq (text : Text) :
    escape Engine.sqlserver.kind text = Text.ofChars (text.chars.flatMap escapedChar) := by
  show text.chars.flatMap (fun c =>
    if sqlserverEscapes c then 0x5C :: Text.ofChar c else Text.ofChar c) = _
  induction text.chars with
  | nil => rfl
  | cons c cs ih =>
    rw [List.flatMap_cons, List.flatMap_cons, Text.ofChars_append, ih, escapedChar]
    by_cases h : sqlserverEscapes c = true
    · rw [if_pos h, if_pos h, Text.ofChars_cons, Text.ofChars_singleton]
      rfl
    · rw [if_neg h, if_neg h, Text.ofChars_singleton]

/-- Every specifier is a letter written twice or more. -/
theorem exists_specifier {specifier : Text} (mem : specifier ∈ Engine.sqlserver.specifiers) :
    ∃ c n, isSpecifierLetter c = true ∧ specifier = Text.ofChars (List.replicate (n + 2) c) := by
  have all : ∀ s ∈ Engine.sqlserver.specifiers,
      isSpecifierLetter (s.chars.headD ' ') = true ∧
        s = Text.ofChars (List.replicate (s.chars.length - 2 + 2) (s.chars.headD ' ')) := by
    decide
  exact ⟨_, _, all specifier mem⟩

theorem partText_eq {part : Resolution} (spelled : part.Spelled .sqlserver) :
    partText Engine.sqlserver.kind part = Text.ofChars (spelling part) := by
  rcases spelled with ⟨native, mem⟩ | ⟨literal, -⟩
  · obtain ⟨c, n, -, text⟩ := exists_specifier mem
    rw [partText_native native, spelling, if_pos native, text, Text.chars_ofChars]
  · rw [partText_literal literal, spelling, literal, if_neg Manner.noConfusion, escape_eq]

/-- A character that is written without a backslash is read as itself. -/
theorem readFrom_unescaped {c : Char} (h : sqlserverEscapes c = false) (rest : List Char) :
    readFrom 0 (c :: rest) = (readFrom 0 rest).map (.char c :: ·) := by
  apply readFrom_char
  · rintro rfl
    exact absurd h (by decide)
  · by_contra letter
    have escaped : "dfFghHKmMstyz".toList.all sqlserverEscapes = true := by decide
    rw [Bool.not_eq_false, isSpecifierLetter, List.contains_iff_mem] at letter
    rw [List.all_eq_true.mp escaped c letter] at h
    cases h

/-- **Parts that stand apart are read back.** By induction on the parts; the text behind a
specifier goes on with its letter only if the next part is a specifier of that letter. -/
theorem reads_parts {parts : List Resolution} (spelled : ∀ part ∈ parts, part.Spelled .sqlserver)
    (apart : (parts.map Resolution.item).IsChain Apart) :
    readFrom 0 (parts.flatMap spelling) = some (parts.map Resolution.item) := by
  induction parts with
  | nil => rfl
  | cons part rest ih =>
    obtain ⟨first, others⟩ := List.forall_mem_cons.mp spelled
    rw [List.map_cons, List.isChain_cons] at apart
    have ih := ih others apart.2
    rw [List.flatMap_cons, List.map_cons]
    rcases first with ⟨native, mem⟩ | ⟨literal, c, text⟩
    · obtain ⟨c, n, letter, text⟩ := exists_specifier mem
      have item : part.item = .field (Text.ofChars (List.replicate (n + 2) c)) [] := by
        rw [Resolution.item_native native, text]
      have ends : (rest.flatMap spelling).head? ≠ some c := by
        intro front
        obtain ⟨tail, split⟩ := List.head?_eq_some_iff.mp front
        rw [split, readFrom_letter letter, Option.map_eq_some_iff] at ih
        obtain ⟨more, -, read⟩ := ih
        have next := apart.1 _ (by rw [← read]; rfl)
        rw [item] at next
        apply next
        rw [Text.chars_ofChars, Text.chars_ofChars]
        rfl
      rw [spelling, if_pos native, text, Text.chars_ofChars, readFrom_run letter _ ends, ih, item,
        Option.map_some]
    · rw [spelling, literal, if_neg Manner.noConfusion, text, Text.chars_ofChar,
        List.flatMap_singleton, Resolution.item_literal literal text]
      by_cases escaped : sqlserverEscapes c = true
      · rw [escapedChar, if_pos escaped]
        show readFrom 0 ('\\' :: c :: rest.flatMap spelling) = _
        rw [readFrom_escaped, ih, Option.map_some]
      · have bare := Bool.eq_false_iff.mpr escaped
        rw [escapedChar, if_neg escaped, List.singleton_append, readFrom_unescaped bare, ih,
          Option.map_some]

/-! ## Formats of a single character -/

/-- The characters of a format: a single one gets a backslash. -/
def guardedChars (cs : List Char) : List Char := if cs.length = 1 then '\\' :: cs else cs

theorem length_guardedChars (cs : List Char) : (guardedChars cs).length ≠ 1 := by
  unfold guardedChars
  split_ifs with single
  · simp [single]
  · exact single

theorem guarded_eq (cs : List Char) :
    guarded Engine.sqlserver.kind (Text.ofChars cs) = Text.ofChars (guardedChars cs) := by
  rw [guarded, guardedChars, Text.charCount_ofChars]
  by_cases single : cs.length = 1
  · rw [if_pos single, single, Text.ofChars_cons]
    rfl
  · rw [if_neg single, beq_false_of_ne single, Bool.and_false]
    rfl

theorem ofParts_eq {parts : List Resolution} (spelled : ∀ part ∈ parts, part.Spelled .sqlserver) :
    ofParts Engine.sqlserver.kind parts = Text.ofChars (guardedChars (parts.flatMap spelling)) := by
  have texts : write Engine.sqlserver.kind [] (runs parts)
      = Text.ofChars (parts.flatMap spelling) := by
    rw [write_runs (by decide), List.flatMap_congr fun part mem => partText_eq (spelled part mem),
      Text.ofChars, List.flatMap_assoc]
    · rfl
    · intro part mem copied text
      rcases spelled part mem with ⟨native, -⟩ | ⟨-, c, one⟩
      · exact absurd native copied
      · rw [one, escape_eq, escape_eq, escape_eq, ← Text.ofChars_append, ← List.flatMap_append,
          ← Text.ofChars_singleton, Text.chars_ofChars_append, Text.chars_ofChars]
  rw [ofParts, texts, guarded_eq]

/-- Only a character without a backslash is written as a single character. -/
theorem bare_of_single {parts : List Resolution}
    (spelled : ∀ part ∈ parts, part.Spelled .sqlserver) {c : Char}
    (single : parts.flatMap spelling = [c]) : sqlserverEscapes c = false := by
  cases parts with
  | nil => cases single
  | cons part rest =>
    rw [List.flatMap_cons, spelling] at single
    rcases spelled part List.mem_cons_self with ⟨native, mem⟩ | ⟨literal, d, text⟩
    · obtain ⟨d, n, -, text⟩ := exists_specifier mem
      rw [if_pos native, text, Text.chars_ofChars] at single
      cases single
    · rw [literal, if_neg Manner.noConfusion, text, Text.chars_ofChar, List.flatMap_singleton,
        escapedChar] at single
      split_ifs at single with escaped
      · cases single
      · have same : d = c := (List.cons.inj single).1
        rw [← same]
        exact Bool.eq_false_iff.mpr escaped

/-- The backslash before a single character does not change what is read. -/
theorem read_ofParts {parts : List Resolution} (spelled : ∀ part ∈ parts, part.Spelled .sqlserver) :
    read (ofParts Engine.sqlserver.kind parts) = readFrom 0 (parts.flatMap spelling) := by
  rw [ofParts_eq spelled, read, FormatItem.readWith_ofChars, readChars,
    if_neg (length_guardedChars _), guardedChars]
  split_ifs with single
  · obtain ⟨c, one⟩ := List.length_eq_one_iff.mp single
    rw [one, readFrom_escaped, readFrom_unescaped (bare_of_single spelled one)]
  · rfl

theorem apart_item_iff (a b : Resolution) : Apart a.item b.item ↔ ¬ a.SharesLetter b := by
  unfold Resolution.item Resolution.SharesLetter
  by_cases ha : a.manner = .native
  · by_cases hb : b.manner = .native
    · simp [ha, hb, Apart]
    · simp [ha, hb, Apart]
  · simp [ha, Apart]

end Sqlserver

/-- **Which custom formats say what was planned.** On SQL Server, the format of a native fragment of
an accepted pattern is read as the parts of the fragment in order, each native part as its own
specifier and each literal part as its text, exactly when no two specifiers of the same letter
touch. -/
theorem sqlserver_reads_back_iff (format : Text) (accepted : Pattern.validate format = .ok ()) :
    ∃ fragments, plan Engine.sqlserver.kind format = .ok fragments ∧
      ∀ fragment ∈ fragments, fragment.emulated = false →
        (Sqlserver.read (ofParts Engine.sqlserver.kind fragment.parts)
            = some (fragment.parts.map Resolution.item) ↔
          fragment.parts.IsChain fun a b => ¬ a.SharesLetter b) := by
  obtain ⟨fragments, planned, spelled⟩ := Fragment.exists_spelled .sqlserver accepted
  refine ⟨fragments, planned, ?_⟩
  intro fragment mem native
  have spelled := spelled fragment mem native
  have apart : (fragment.parts.map Resolution.item).IsChain Sqlserver.Apart ↔
      fragment.parts.IsChain fun a b => ¬ a.SharesLetter b := by
    simp only [List.isChain_map, Sqlserver.apart_item_iff]
  rw [Sqlserver.read_ofParts spelled, ← apart]
  constructor
  · intro reads
    exact Sqlserver.isChain_of_readFrom reads
  · intro chain
    exact Sqlserver.reads_parts spelled chain

/-- Specifiers of different letters touch, and an escaped letter stands before a specifier of that
letter. -/
theorem sqlserver_reads_back_iff_example :
    let format : Text := "dY\\yy"
    let parts := (Token.tokenize format).map (Resolution.decided .sqlserver)
    Pattern.validate format = .ok () ∧
    plan Engine.sqlserver.kind format = .ok [⟨false, parts⟩] ∧
    parts.IsChain (fun a b => ¬ a.SharesLetter b) ∧
    Sqlserver.read (ofParts Engine.sqlserver.kind parts) = some (parts.map Resolution.item) := by
  intro format parts
  have accepted : Pattern.validate format = .ok () := by decide
  have single : plan Engine.sqlserver.kind format = .ok [⟨false, parts⟩] := by decide
  have apart : parts.IsChain (fun a b => ¬ a.SharesLetter b) := by decide
  obtain ⟨fragments, planned, reads⟩ := sqlserver_reads_back_iff format accepted
  rw [single] at planned
  cases planned
  exact ⟨accepted, single, apart, (reads _ List.mem_cons_self rfl).mpr apart⟩

/-- Two years of two digits are read as one year of four digits. -/
theorem sqlserver_touching_years :
    let format : Text := "yy"
    let parts := (Token.tokenize format).map (Resolution.decided .sqlserver)
    Pattern.validate format = .ok () ∧
    plan Engine.sqlserver.kind format = .ok [⟨false, parts⟩] ∧
    parts.map Resolution.item = [.field "yy" [], .field "yy" []] ∧
    Sqlserver.read (ofParts Engine.sqlserver.kind parts) = some [.field "yyyy" []] := by
  decide

end NativeFormat

end DatePattern
