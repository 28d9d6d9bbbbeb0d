import DatePattern.Proofs.NativeFormat.Parts

/-!
# Formats with percent signs

`date_format` and `strftime` know a specifier by the percent sign in front of it, and two percent
signs stand for one. Specifiers therefore never run into each other or into text, wherever
percent signs stand in the format:

- `Percent.read`: the reader;
- `Percent.reads_part`: in front of any text, a part is read as itself, which is what one step of
  the reader has to show; a whole format follows by induction on its parts.
-/

namespace DatePattern.NativeFormat

namespace Percent

/-- Reads characters: two percent signs are one, a percent sign and another character are a
specifier, any other character is itself. A percent sign at the end cannot be read. -/
def readChars : List Char → Option (List FormatItem)
  | [] => some []
  | [c] => if c = '%' then none else some [.char c]
  | c :: d :: rest =>
    if c = '%' then
      (readChars rest).map
        ((if d = '%' then .char '%' else .field (Text.ofChars [c, d]) []) :: ·)
    else (readChars (d :: rest)).map (.char c :: ·)

/-- What a format of `date_format` or `strftime` asks for. -/
def read (format : Text) : Option (List FormatItem) :=
  FormatItem.readWith readChars format

theorem readChars_char {c : Char} (h : c ≠ '%') (rest : List Char) :
    readChars (c :: rest) = (readChars rest).map (.char c :: ·) := by
  cases rest with
  | nil => exact if_neg h
  | cons d rest => exact if_neg h

theorem readChars_sign (rest : List Char) :
    readChars ('%' :: '%' :: rest) = (readChars rest).map (.char '%' :: ·) := rfl

theorem readChars_field {d : Char} (h : d ≠ '%') (rest : List Char) :
    readChars ('%' :: d :: rest)
      = (readChars rest).map (.field (Text.ofChars ['%', d]) [] :: ·) := by
  rw [readChars, if_pos rfl, if_neg h]

/-! ## Writing -/

/-- A literal character as it stands in a format. -/
def escapedChar (c : Char) : List Char := if c = '%' then ['%', '%'] else [c]

theorem escape_eq {engine : Engine} (percent : engine = .mysql ∨ engine = .sqlite) (text : Text) :
    escape engine.kind text = text.replaceByte 0x25 [0x25, 0x25] := by
  rcases percent with rfl | rfl <;> rfl

theorem replaceByte_ofChars (cs : List Char) :
    (Text.ofChars cs).replaceByte 0x25 [0x25, 0x25] = Text.ofChars (cs.flatMap escapedChar) := by
  apply Text.flatMap_ofChars
  · decide
  · intro b high
    have other : b ≠ 0x25 := by
      rintro rfl
      exact absurd high (by decide)
    rw [if_neg other]
  · intro c high
    have other : c ≠ '%' := by
      rintro rfl
      exact absurd high (by decide)
    rw [escapedChar, if_neg other]

/-- The specifiers of both engines are a percent sign and one other character. -/
theorem exists_specifier {engine : Engine} (percent : engine = .mysql ∨ engine = .sqlite)
    {specifier : Text} (mem : specifier ∈ engine.specifiers) :
    ∃ d, d ≠ '%' ∧ specifier = Text.ofChars ['%', d] := by
  have last : ∀ s ∈ engine.specifiers,
      s.chars.getLastD '%' ≠ '%' ∧ s = Text.ofChars ['%', s.chars.getLastD '%'] := by
    rcases percent with rfl | rfl <;> decide
  exact ⟨_, last specifier mem⟩

/-- A part is read as itself, whatever stands behind it. -/
theorem reads_part {engine : Engine} (percent : engine = .mysql ∨ engine = .sqlite)
    {part : Resolution} (spelled : part.Spelled engine) :
    ∃ cs, partText engine.kind part = Text.ofChars cs ∧
      ∀ rest, readChars (cs ++ rest) = (readChars rest).map (part.item :: ·) := by
  rcases spelled with ⟨native, mem⟩ | ⟨literal, c, text⟩
  · obtain ⟨d, hd, spelling⟩ := exists_specifier percent mem
    rw [partText_native native, Resolution.item_native native, spelling]
    exact ⟨['%', d], rfl, readChars_field hd⟩
  · rw [partText_literal literal, Resolution.item_literal literal text, escape_eq percent, text]
    refine ⟨escapedChar c, ?_, fun rest => ?_⟩
    · rw [← Text.ofChars_singleton, replaceByte_ofChars, List.flatMap_singleton]
    · by_cases hc : c = '%'
      · rw [escapedChar, if_pos hc, hc]
        exact readChars_sign rest
      · rw [escapedChar, if_neg hc]
        exact readChars_char hc rest

/-- The texts of parts one after the other are read as the parts. -/
theorem reads_parts {engine : Engine} (percent : engine = .mysql ∨ engine = .sqlite)
    {parts : List Resolution} (spelled : ∀ part ∈ parts, part.Spelled engine) :
    ∃ cs, parts.flatMap (partText engine.kind) = Text.ofChars cs ∧
      readChars cs = some (parts.map Resolution.item) := by
  induction parts with
  | nil => exact ⟨[], rfl, rfl⟩
  | cons part rest ih =>
    obtain ⟨first, others⟩ := List.forall_mem_cons.mp spelled
    obtain ⟨cs, text, reads⟩ := reads_part percent first
    obtain ⟨more, texts, readsMore⟩ := ih others
    refine ⟨cs ++ more, ?_, ?_⟩
    · rw [List.flatMap_cons, text, texts, Text.ofChars_append]
    · rw [reads, readsMore, Option.map_some, List.map_cons]

theorem ofParts_eq {engine : Engine} (percent : engine = .mysql ∨ engine = .sqlite)
    (parts : List Resolution) :
    ofParts engine.kind parts = parts.flatMap (partText engine.kind) := by
  have unjoined : engine.kind ≠ Engine.postgres.kind := by
    rcases percent with rfl | rfl <;> decide
  have unguarded : ∀ format, guarded engine.kind format = format := by
    intro format
    rcases percent with rfl | rfl <;> rfl
  rw [ofParts, unguarded, write_runs unjoined]
  intro part _ _ text
  rw [escape_eq percent, escape_eq percent, escape_eq percent]
  exact Text.replaceByte_append ..

end Percent

/-- **Formats with percent signs say what was planned.** On MySQL and SQLite, the format of every
native fragment of an accepted pattern is read as the parts of the fragment in order, each native
part as its own specifier and each literal part as its text. -/
theorem percent_reads_back (engine : Engine) (percent : engine = .mysql ∨ engine = .sqlite)
    (format : Text) (accepted : Pattern.validate format = .ok ()) :
    ∃ fragments, plan engine.kind format = .ok fragments ∧
      ∀ fragment ∈ fragments, fragment.emulated = false →
        Percent.read (ofParts engine.kind fragment.parts)
          = some (fragment.parts.map Resolution.item) := by
  obtain ⟨fragments, planned, spelled⟩ := Fragment.exists_spelled engine accepted
  refine ⟨fragments, planned, ?_⟩
  intro fragment mem native
  obtain ⟨cs, text, reads⟩ := Percent.reads_parts percent (spelled fragment mem native)
  rw [Percent.ofParts_eq percent, text, Percent.read, FormatItem.readWith_ofChars, reads]

/-- Percent signs before, between and behind specifiers, bare and escaped. -/
theorem percent_reads_back_example :
    let format : Text := "%Y%%\\%dH\\s%"
    let parts := (Token.tokenize format).map (Resolution.decided .sqlite)
    Pattern.validate format = .ok () ∧
    plan Engine.sqlite.kind format = .ok [⟨false, parts⟩] ∧
    Percent.read (ofParts Engine.sqlite.kind parts) = some (parts.map Resolution.item) := by
  intro format parts
  have accepted : Pattern.validate format = .ok () := by decide
  have single : plan Engine.sqlite.kind format = .ok [⟨false, parts⟩] := by decide
  obtain ⟨fragments, planned, reads⟩ := percent_reads_back .sqlite (.inr rfl) format accepted
  rw [single] at planned
  cases planned
  exact ⟨accepted, single, reads _ List.mem_cons_self rfl⟩

end DatePattern.NativeFormat
