import DatePattern.Proofs.NativeFormat.Parts

/-!
# Formats of `to_char`

`to_char` knows a specifier by its spelling alone: at every place it takes the longest keyword it
can, with a prefix before it and a suffix behind it. What keeps the parts of a format apart is an
empty pair of quotes between two specifiers that meet with letters, and the quotes around text
with letters in it.

- `Postgres.read`: the reader, with the keywords of `to_char`;
- `Postgres.field?_specifier`: a specifier of the table is read as itself, with no suffix, if no
  letter stands behind it. Those that end in a digit may even stand before another specifier;
- `Postgres.reads_write`: what is written is read back. The induction runs over the runs of a
  format and carries that text behind a specifier that ends in a letter starts with none.
-/

namespace DatePattern

/-! ## Runs -/

namespace Run

/-- A run as native fragments have them: a specifier of the engine's table, or some characters. -/
def Spelled (engine : Engine) : Run → Prop
  | .specifier text => text ∈ engine.specifiers
  | .literal text => ∃ c cs, text = Text.ofChars (c :: cs)

/-- What a run asks for. -/
def items : Run → List FormatItem
  | .specifier text => [.field text []]
  | .literal text => text.chars.map .char

end Run

namespace NativeFormat

/-- A copied part in front of parts: it goes into the run behind it, or is a run by itself. -/
theorem runs_copied {part : Resolution} (copied : part.manner = .literal)
    (rest : List Resolution) :
    (∃ text more, runs rest = .literal text :: more ∧
      runs (part :: rest) = .literal (part.token.text ++ text) :: more) ∨
    runs (part :: rest) = .literal part.token.text :: runs rest := by
  rw [runs, copied, if_neg Manner.noConfusion]
  split
  · next text more front => exact .inl ⟨text, more, front, rfl⟩
  · exact .inr rfl

/-- The runs of spelled parts are spelled and ask for the same as the parts. -/
theorem runs_spelled {engine : Engine} {parts : List Resolution}
    (spelled : ∀ part ∈ parts, part.Spelled engine) :
    (∀ run ∈ runs parts, run.Spelled engine) ∧
      (runs parts).flatMap Run.items = parts.map Resolution.item := by
  induction parts with
  | nil => exact ⟨fun run mem => absurd mem List.not_mem_nil, rfl⟩
  | cons part rest ih =>
    obtain ⟨first, others⟩ := List.forall_mem_cons.mp spelled
    obtain ⟨runsSpelled, runsItems⟩ := ih others
    rcases first with ⟨native, mem⟩ | ⟨literal, c, text⟩
    · rw [runs, if_pos native, List.flatMap_cons, runsItems, List.map_cons,
        Resolution.item_native native]
      exact ⟨List.forall_mem_cons.mpr ⟨mem, runsSpelled⟩, rfl⟩
    · rw [List.map_cons, Resolution.item_literal literal text, ← runsItems]
      rcases runs_copied literal rest with ⟨behind, more, front, eq⟩ | eq
      · -- the run behind is spelled, so the character in front of it makes a longer one
        rw [front] at runsSpelled ⊢
        obtain ⟨⟨d, cs, rfl⟩, moreSpelled⟩ := List.forall_mem_cons.mp runsSpelled
        rw [eq, text, ← Text.ofChars_cons]
        refine ⟨List.forall_mem_cons.mpr ⟨⟨c, d :: cs, rfl⟩, moreSpelled⟩, ?_⟩
        simp only [List.flatMap_cons, Run.items, Text.chars_ofChars, List.map_cons]
        rfl
      · rw [eq, text, ← Text.ofChars_singleton]
        refine ⟨List.forall_mem_cons.mpr ⟨⟨c, [], rfl⟩, runsSpelled⟩, ?_⟩
        rw [List.flatMap_cons, Run.items, Text.chars_ofChars]
        rfl

namespace Postgres

/-! ## The reader -/

/-- The keywords that are not in lower case. -/
def words : List String :=
  ["A.D.", "A.M.", "AD", "AM", "B.C.", "BC", "CC", "D", "DAY", "DD", "DDD", "DY", "Day", "Dy",
    "FF1", "FF2", "FF3", "FF4", "FF5", "FF6", "FX", "HH", "HH12", "HH24", "I", "ID", "IDDD", "IW",
    "IY", "IYY", "IYYY", "J", "MI", "MM", "MON", "MONTH", "MS", "Mon", "Month", "OF", "P.M.", "PM",
    "Q", "RM", "SS", "SSSS", "SSSSS", "TZ", "TZH", "TZM", "US", "W", "WW", "Y", "Y,YYY", "YY",
    "YYY", "YYYY"]

/-- The keywords of `to_char`, those in lower case included. -/
def keywords : List (List Char) :=
  words.map String.toList ++ words.map fun word => word.toList.map Char.toLower

/-- What may stand before a keyword. -/
def leads : List (List Char) := ["FM".toList, "fm".toList, "TM".toList, "tm".toList]

/-- What may stand behind a keyword. -/
def suffixes : List (List Char) := ["TH".toList, "th".toList, "SP".toList]

/-- The longest of some words that a text starts with. -/
def longest? (words : List (List Char)) (cs : List Char) : Option (List Char) :=
  (words.filter (·.isPrefixOf cs)).argmax List.length

/-- The prefix of a keyword that a text starts with, if any. -/
def leadOf (cs : List Char) : List Char := (longest? leads cs).getD []

/-- The suffix of a keyword that a text starts with, if any. -/
def suffixOf (cs : List Char) : List Char := (longest? suffixes cs).getD []

/-- The specifier that a text starts with, a keyword with the prefix before it, and the suffix
behind it. -/
def field? (cs : List Char) : Option (List Char × List Char) :=
  (longest? keywords (cs.drop (leadOf cs).length)).map fun keyword =>
    (leadOf cs ++ keyword, suffixOf (cs.drop (leadOf cs ++ keyword).length))

/-- Reads the characters behind `skip` others that are already read, `quoted` between double
quotes or outside. Quotes must be closed, and a backslash between them must have a character
behind it. -/
def readFrom : (skip : Nat) → (quoted : Bool) → List Char → Option (List FormatItem)
  | _, true, [] => none
  | _, false, [] => some []
  | skip + 1, quoted, _ :: rest => readFrom skip quoted rest
  | 0, true, c :: rest =>
    if c = '"' then readFrom 0 false rest
    else if c = '\\' then rest.head?.bind fun d => (readFrom 1 true rest).map (.char d :: ·)
    else (readFrom 0 true rest).map (.char c :: ·)
  | 0, false, c :: rest =>
    if c = '"' then readFrom 0 true rest
    else
      match field? (c :: rest) with
      | some (specifier, suffix) =>
        (readFrom ((specifier ++ suffix).length - 1) false rest).map
          (.field (Text.ofChars specifier) (Text.ofChars suffix) :: ·)
      | none => (readFrom 0 false rest).map (.char c :: ·)

/-- What a format of `to_char` asks for. -/
def read (format : Text) : Option (List FormatItem) :=
  FormatItem.readWith (readFrom 0 false) format

theorem readFrom_eq_drop (skip : Nat) (quoted : Bool) (cs : List Char) :
    readFrom skip quoted cs = readFrom 0 quoted (cs.drop skip) :=
  Utf8.eq_drop_of_skip (fun _ skip => readFrom skip quoted)
    (fun _ skip => by cases skip <;> cases quoted <;> rfl) (fun _ _ _ _ => by rw [readFrom])
    0 skip cs

/-! ## Keywords -/

/-- A text that no letter stands at the front of. -/
def Breaks (cs : List Char) : Prop := ∀ c ∈ cs.head?, CharClass.isLetter c = false

/-- Words that start with a letter do not start a text that no letter stands at the front of. -/
theorem longest?_of_breaks {words : List (List Char)}
    (letters : ∀ word ∈ words, word.head?.any CharClass.isLetter = true) {cs : List Char}
    (breaks : Breaks cs) : longest? words cs = none := by
  rw [longest?, List.argmax_eq_none, List.filter_eq_nil_iff]
  intro word mem starts
  obtain ⟨rest, rfl⟩ := List.isPrefixOf_iff_prefix.mp starts
  have letter := letters word mem
  cases word with
  | nil => cases letter
  | cons c word =>
    have bare := breaks c rfl
    rw [List.head?_cons, Option.any_some, bare] at letter
    cases letter

/-- Text behind `cs` does not matter to words that do not reach into it. -/
theorem longest?_append {words : List (List Char)} {cs rest : List Char}
    (inside : ∀ word ∈ words, word <+: cs ++ rest → word <+: cs) :
    longest? words (cs ++ rest) = longest? words cs := by
  unfold longest?
  congr 1
  apply List.filter_congr
  intro word mem
  rw [Bool.eq_iff_iff, List.isPrefixOf_iff_prefix, List.isPrefixOf_iff_prefix]
  constructor
  · exact inside word mem
  · intro starts
    exact starts.trans (List.prefix_append cs rest)

theorem letters_keywords : ∀ word ∈ keywords, word.head?.any CharClass.isLetter = true := by
  decide

theorem letters_leads : ∀ word ∈ leads, word.head?.any CharClass.isLetter = true := by
  decide

theorem letters_suffixes : ∀ word ∈ suffixes, word.head?.any CharClass.isLetter = true := by
  decide

/-- Where no letter stands, no specifier starts. -/
theorem field?_of_breaks {cs : List Char} (breaks : Breaks cs) : field? cs = none := by
  have lead : leadOf cs = [] := by
    rw [leadOf, longest?_of_breaks letters_leads breaks]
    rfl
  rw [field?, lead, List.length_nil, List.drop_zero, longest?_of_breaks letters_keywords breaks,
    Option.map_none]

/-- A specifier of the table is a prefix and a keyword, of two characters at least. A keyword that
goes on from it goes on with a letter, and there is none if it ends in a digit. -/
theorem exists_split {specifier : Text} (mem : specifier ∈ Engine.postgres.specifiers) :
    ∃ lead keyword, specifier = Text.ofChars (lead ++ keyword) ∧ 2 ≤ (lead ++ keyword).length ∧
      leadOf (lead ++ keyword) = lead ∧
      longest? keywords keyword = some keyword ∧
      ∀ word ∈ keywords, keyword <+: word → word <+: keyword ∨
        endsWithLetter specifier = true ∧
          (word.drop keyword.length).head?.any CharClass.isLetter = true := by
  have all : ∀ s ∈ Engine.postgres.specifiers,
      let lead := leadOf s.chars
      let keyword := s.chars.drop lead.length
      s = Text.ofChars (lead ++ keyword) ∧ 2 ≤ (lead ++ keyword).length ∧
        leadOf (lead ++ keyword) = lead ∧
        longest? keywords keyword = some keyword ∧
        ∀ word ∈ keywords, keyword <+: word → word <+: keyword ∨
          endsWithLetter s = true ∧
            (word.drop keyword.length).head?.any CharClass.isLetter = true := by
    decide +kernel
  exact ⟨_, _, all specifier mem⟩

theorem startsWithLetter_specifier :
    ∀ specifier ∈ Engine.postgres.specifiers, startsWithLetter specifier = true := by
  decide

/-- No specifier starts with a suffix, or is shorter than one. -/
theorem suffix_not_prefix : ∀ specifier ∈ Engine.postgres.specifiers, ∀ word ∈ suffixes,
    word.length ≤ specifier.chars.length ∧ ¬ word <+: specifier.chars := by
  decide

/-- What may stand behind a specifier: text that starts with no letter or, if the specifier ends
in a digit, another specifier. -/
def Follows (specifier : Text) (cs : List Char) : Prop :=
  Breaks cs ∨ endsWithLetter specifier = false ∧
    ∃ next ∈ Engine.postgres.specifiers, next.chars <+: cs

/-- No keyword reaches over the end of a specifier into what may stand behind it. -/
theorem longest?_keyword {specifier : Text} {keyword rest : List Char}
    (found : longest? keywords keyword = some keyword)
    (extensions : ∀ word ∈ keywords, keyword <+: word → word <+: keyword ∨
      endsWithLetter specifier = true ∧
        (word.drop keyword.length).head?.any CharClass.isLetter = true)
    (follows : Follows specifier rest) : longest? keywords (keyword ++ rest) = some keyword := by
  rw [longest?_append, found]
  intro word listed starts
  by_contra outside
  have longer : keyword.length ≤ word.length := by
    by_contra shorter
    exact outside (List.prefix_of_prefix_length_le starts (List.prefix_append keyword rest)
      (by omega))
  have whole : keyword <+: word :=
    List.prefix_of_prefix_length_le (List.prefix_append keyword rest) starts longer
  rcases extensions word listed whole with inside | ⟨letter, next⟩
  · exact outside inside
  · rcases follows with breaks | ⟨digit, -⟩
    · -- the letter behind the keyword in `word` would be the first character of `rest`
      obtain ⟨more, rfl⟩ := whole
      rw [List.drop_left] at next
      have reaches : more <+: rest := (List.prefix_append_right_inj keyword).mp starts
      cases more with
      | nil => cases next
      | cons c more =>
        obtain ⟨tail, rfl⟩ := reaches
        rw [List.head?_cons, Option.any_some, breaks c rfl] at next
        cases next
    · rw [digit] at letter
      cases letter

theorem suffixOf_of_follows {specifier : Text} {cs : List Char} (follows : Follows specifier cs) :
    suffixOf cs = [] := by
  have none : longest? suffixes cs = none := by
    rcases follows with breaks | ⟨-, next, listed, starts⟩
    · exact longest?_of_breaks letters_suffixes breaks
    · rw [longest?, List.argmax_eq_none, List.filter_eq_nil_iff]
      intro word mem front
      obtain ⟨short, differs⟩ := suffix_not_prefix next listed word mem
      have front := List.isPrefixOf_iff_prefix.mp front
      exact differs (List.prefix_of_prefix_length_le front starts short)
  rw [suffixOf, none]
  rfl

/-- **A specifier is read as itself**, with no suffix, before whatever may stand behind it. -/
theorem field?_specifier {specifier : Text} (mem : specifier ∈ Engine.postgres.specifiers)
    {rest : List Char} (follows : Follows specifier rest) :
    field? (specifier.chars ++ rest) = some (specifier.chars, []) := by
  obtain ⟨lead, keyword, text, long, leadRead, found, extensions⟩ := exists_split mem
  have chars : specifier.chars = lead ++ keyword := by rw [text, Text.chars_ofChars]
  have short : ∀ word ∈ leads, word.length = 2 := by decide
  have first : leadOf (lead ++ keyword ++ rest) = lead := by
    rw [leadOf, longest?_append]
    · exact leadRead
    · intro word listed starts
      refine List.prefix_of_prefix_length_le starts (List.prefix_append _ rest) ?_
      rw [short word listed]
      exact long
  rw [chars, field?, first, List.append_assoc, List.drop_left,
    longest?_keyword found extensions follows, Option.map_some, ← List.append_assoc,
    List.drop_left, suffixOf_of_follows follows]

/-! ## Reading what is written -/

theorem readFrom_specifier {specifier : Text} (mem : specifier ∈ Engine.postgres.specifiers)
    {rest : List Char} (follows : Follows specifier rest) :
    readFrom 0 false (specifier.chars ++ rest)
      = (readFrom 0 false rest).map (.field specifier [] :: ·) := by
  have found := field?_specifier mem follows
  have letter := startsWithLetter_specifier specifier mem
  obtain ⟨lead, keyword, text, -⟩ := exists_split mem
  have spelled : specifier = Text.ofChars specifier.chars := by rw [text, Text.chars_ofChars]
  rw [startsWithLetter] at letter
  cases front : specifier.chars with
  | nil =>
    rw [front] at letter
    cases letter
  | cons c tail =>
    rw [front] at found letter spelled
    rw [List.head?_cons, Option.any_some] at letter
    have other : c ≠ '"' := by
      rintro rfl
      exact absurd letter (by decide)
    rw [List.cons_append] at found ⊢
    rw [readFrom, if_neg other, found]
    show (readFrom ((c :: tail ++ []).length - 1) false (tail ++ rest)).map
      (.field (Text.ofChars (c :: tail)) [] :: ·) = _
    rw [readFrom_eq_drop, List.append_nil, List.length_cons, Nat.add_sub_cancel, List.drop_left,
      ← spelled]

/-- A character that needs no quotes is read as itself. -/
theorem readFrom_plain {c : Char} (bare : postgresQuotes c = false) (rest : List Char) :
    readFrom 0 false (c :: rest) = (readFrom 0 false rest).map (.char c :: ·) := by
  simp only [postgresQuotes, Bool.or_eq_false_iff, decide_eq_false_iff_not] at bare
  obtain ⟨⟨letter, quote⟩, -⟩ := bare
  have breaks : Breaks (c :: rest) := by
    intro d front
    cases front
    exact letter
  rw [readFrom, if_neg quote, field?_of_breaks breaks]

theorem readFrom_plains {cs : List Char} (bare : cs.any postgresQuotes = false)
    (rest : List Char) :
    readFrom 0 false (cs ++ rest) = (readFrom 0 false rest).map (cs.map .char ++ ·) := by
  induction cs with
  | nil => simp
  | cons c cs ih =>
    rw [List.any_cons, Bool.or_eq_false_iff] at bare
    rw [List.cons_append, readFrom_plain bare.1, ih bare.2, Option.map_map]
    rfl

/-- A character between quotes. -/
def quotedChar (c : Char) : List Char := if c = '\\' ∨ c = '"' then ['\\', c] else [c]

theorem readFrom_quotedChar (c : Char) (rest : List Char) :
    readFrom 0 true (quotedChar c ++ rest) = (readFrom 0 true rest).map (.char c :: ·) := by
  unfold quotedChar
  split_ifs with special
  · rfl
  · rw [not_or] at special
    rw [List.singleton_append, readFrom, if_neg special.2, if_neg special.1]

/-- Between quotes every character is read as itself, up to the closing quote. -/
theorem readFrom_quoted (cs rest : List Char) :
    readFrom 0 true (cs.flatMap quotedChar ++ '"' :: rest)
      = (readFrom 0 false rest).map (cs.map .char ++ ·) := by
  induction cs with
  | nil =>
    rw [List.flatMap_nil, List.nil_append, readFrom, if_pos rfl]
    simp
  | cons c cs ih =>
    rw [List.flatMap_cons, List.append_assoc, readFrom_quotedChar, ih, Option.map_map]
    rfl

/-- Literal text as it stands in a format. -/
def literalChars (cs : List Char) : List Char :=
  if cs.any postgresQuotes then '"' :: (cs.flatMap quotedChar ++ ['"']) else cs

theorem escape_eq (cs : List Char) :
    escape Engine.postgres.kind (Text.ofChars cs) = Text.ofChars (literalChars cs) := by
  have inside : (Text.ofChars cs).flatMap postgresByte = Text.ofChars (cs.flatMap quotedChar) := by
    apply Text.flatMap_ofChars
    · decide
    · intro b high
      have other : ¬ (b = 0x5C ∨ b = 0x22) := by
        rintro (rfl | rfl) <;> exact absurd high (by decide)
      rw [postgresByte, if_neg other]
    · intro c high
      have other : ¬ (c = '\\' ∨ c = '"') := by
        rintro (rfl | rfl) <;> exact absurd high (by decide)
      rw [quotedChar, if_neg other]
  show (if (Text.ofChars cs).chars.any postgresQuotes then _ else _) = _
  rw [Text.chars_ofChars, inside, literalChars]
  split_ifs
  · rw [Text.ofChars_cons, Text.ofChars_append, ← List.append_assoc]
    rfl
  · rfl

theorem readFrom_literal (cs rest : List Char) :
    readFrom 0 false (literalChars cs ++ rest)
      = (readFrom 0 false rest).map (cs.map .char ++ ·) := by
  unfold literalChars
  split_ifs with quotes
  · rw [List.cons_append, List.append_assoc, readFrom, if_pos rfl]
    exact readFrom_quoted cs rest
  · exact readFrom_plains (Bool.eq_false_iff.mpr quotes) rest

/-- Literal text starts with a quote or with a character that is no letter. -/
theorem breaks_literal (c : Char) (cs rest : List Char) :
    Breaks (literalChars (c :: cs) ++ rest) := by
  intro d front
  unfold literalChars at front
  split_ifs at front with quotes
  · cases front
    decide
  · cases front
    rw [Bool.not_eq_true, List.any_cons, Bool.or_eq_false_iff, postgresQuotes] at quotes
    simp only [Bool.or_eq_false_iff] at quotes
    exact quotes.1.1.1

/-- A specifier is kept from a letter before it by an empty pair of quotes. -/
theorem write_specifier {specifier : Text} (mem : specifier ∈ Engine.postgres.specifiers)
    (previous : Text) (rest : List Run) :
    write Engine.postgres.kind previous (.specifier specifier :: rest)
      = (if endsWithLetter previous then Text.ofChars ['"', '"'] else [])
        ++ (specifier ++ write Engine.postgres.kind specifier rest) := by
  rw [write, startsWithLetter_specifier specifier mem, List.append_assoc]
  cases endsWithLetter previous <;> rfl

/-- **What is written is read back.** The text of runs behind `previous` asks for what the runs ask
for, and it may stand behind `previous`. -/
theorem reads_write {runs : List Run} (spelled : ∀ run ∈ runs, run.Spelled .postgres)
    (previous : Text) :
    ∃ cs, write Engine.postgres.kind previous runs = Text.ofChars cs ∧
      readFrom 0 false cs = some (runs.flatMap Run.items) ∧ Follows previous cs := by
  induction runs generalizing previous with
  | nil => exact ⟨[], rfl, rfl, .inl fun c front => absurd front (by simp)⟩
  | cons run rest ih =>
    obtain ⟨first, others⟩ := List.forall_mem_cons.mp spelled
    cases run with
    | specifier text =>
      obtain ⟨cs, texts, reads, follows⟩ := ih others text
      obtain ⟨lead, keyword, spelling, -⟩ := exists_split first
      have written : text ++ write Engine.postgres.kind text rest
          = Text.ofChars (text.chars ++ cs) := by
        rw [Text.ofChars_append, texts, spelling, Text.chars_ofChars]
      have front : readFrom 0 false (text.chars ++ cs)
          = some ((Run.specifier text :: rest).flatMap Run.items) := by
        rw [readFrom_specifier first follows, reads]
        rfl
      rw [write_specifier first, written]
      cases ends : endsWithLetter previous with
      | true =>
        refine ⟨'"' :: '"' :: (text.chars ++ cs), rfl, front, .inl ?_⟩
        intro c head
        cases head
        decide
      | false =>
        exact ⟨text.chars ++ cs, rfl, front, .inr ⟨ends, text, first, List.prefix_append _ cs⟩⟩
    | literal text =>
      obtain ⟨c, ds, rfl⟩ := first
      obtain ⟨cs, texts, reads, -⟩ := ih others []
      refine ⟨literalChars (c :: ds) ++ cs, ?_, ?_, .inl (breaks_literal c ds cs)⟩
      · rw [write, texts, escape_eq, Text.ofChars_append]
      · rw [readFrom_literal, reads, Option.map_some, List.flatMap_cons, Run.items,
          Text.chars_ofChars]

end Postgres

/-- **Formats of `to_char` say what was planned.** On PostgreSQL, the format of every native
fragment of an accepted pattern is read as the parts of the fragment in order, each native part as
its own specifier with no suffix and each literal part as its text. -/
theorem postgres_reads_back (format : Text) (accepted : Pattern.validate format = .ok ()) :
    ∃ fragments, plan Engine.postgres.kind format = .ok fragments ∧
      ∀ fragment ∈ fragments, fragment.emulated = false →
        Postgres.read (ofParts Engine.postgres.kind fragment.parts)
          = some (fragment.parts.map Resolution.item) := by
  obtain ⟨fragments, planned, spelled⟩ := Fragment.exists_spelled .postgres accepted
  refine ⟨fragments, planned, ?_⟩
  intro fragment mem native
  obtain ⟨spelled, items⟩ := runs_spelled (spelled fragment mem native)
  obtain ⟨cs, text, reads, -⟩ := Postgres.reads_write spelled []
  have unguarded : ofParts Engine.postgres.kind fragment.parts
      = write Engine.postgres.kind [] (runs fragment.parts) := rfl
  rw [unguarded, text, Postgres.read, FormatItem.readWith_ofChars, reads, items]

/-- Specifiers that would join to others, and text with a letter, a quote and a backslash. -/
theorem postgres_reads_back_example :
    let format : Text := "dDssHs\\T\"\\\\MyYY"
    let parts := (Token.tokenize format).map (Resolution.decided .postgres)
    Pattern.validate format = .ok () ∧
    plan Engine.postgres.kind format = .ok [⟨false, parts⟩] ∧
    Postgres.read (ofParts Engine.postgres.kind parts) = some (parts.map Resolution.item) := by
  intro format parts
  have accepted : Pattern.validate format = .ok () := by decide
  have single : plan Engine.postgres.kind format = .ok [⟨false, parts⟩] := by decide
  obtain ⟨fragments, planned, reads⟩ := postgres_reads_back format accepted
  rw [single] at planned
  cases planned
  exact ⟨accepted, single, reads _ List.mem_cons_self rfl⟩

end NativeFormat

end DatePattern
