import DatePattern.Proofs.NativeFormat.Percent
import DatePattern.Proofs.NativeFormat.Postgres
import DatePattern.Proofs.NativeFormat.Sqlserver
import DatePattern.Proofs.Pattern.Acceptance
import DatePattern.Proofs.Plan.Partition

/-!
# Text behind backslashes

Any text can be put into a format literally: a backslash goes in front of each of its characters.
On the way to an engine the text is escaped once more, by the rules of the engine's own date
function, and each engine has rules of its own. A format that holds text only is read back here by
those rules alone, without the specifiers:

- `Text.backslashed`: the format; `Token.literal_backslashed` and `Token.texts_backslashed`: its
  tokens are literals, and their texts are the text;
- `Literal.readMarked`: the reader that the engines share, with a mark that takes the next character
  along; `Literal.read`: the rules of each engine;
- `Literal.readMarked_flatMap`: text that is written character by character, with a mark or bare, is
  read back;
- `NativeFormat.ofParts_literal`: a fragment without specifiers is its text, escaped as a whole.
-/

namespace DatePattern

/-! ## Formats of text only -/

/-- A text with a backslash in front of every character. -/
def Text.backslashed (text : Text) : Text :=
  Text.ofChars (text.chars.flatMap fun c => ['\\', c])

theorem Text.isUtf8_backslashed (text : Text) : text.backslashed.isUtf8 = true :=
  (Text.isUtf8_iff _).mpr ⟨_, rfl⟩

namespace Token

theorem literal_backslashed (text : Text) :
    ∀ token ∈ tokenize text.backslashed, token.literal = true := by
  have each : ∀ (pos : Nat) (cs : List Char),
      ∀ token ∈ ofCharsFrom pos (cs.flatMap fun c => ['\\', c]), token.literal = true := by
    intro pos cs
    induction cs generalizing pos with
    | nil => exact List.forall_mem_nil _
    | cons c cs ih => exact List.forall_mem_cons.mpr ⟨rfl, ih (pos + 2)⟩
  rw [tokenize, Text.backslashed, Text.chars_ofChars]
  exact each 0 text.chars

theorem texts_backslashed {text : Text} (valid : text.isUtf8 = true) :
    (tokenize text.backslashed).flatMap Token.text = text := by
  have each : ∀ (pos : Nat) (cs : List Char),
      (ofCharsFrom pos (cs.flatMap fun c => ['\\', c])).flatMap Token.text = Text.ofChars cs := by
    intro pos cs
    induction cs generalizing pos with
    | nil => rfl
    | cons c cs ih =>
      rw [List.flatMap_cons, List.cons_append, List.singleton_append, ofCharsFrom_escaped,
        List.flatMap_cons, ih, Text.ofChars_cons]
      rfl
  rw [tokenize, Text.backslashed, Text.chars_ofChars, each, Text.ofChars_chars valid]

end Token

theorem Text.backslashed_ne_nil {text : Text} (valid : text.isUtf8 = true) (some : text ≠ []) :
    text.backslashed ≠ [] := by
  intro empty
  have texts := Token.texts_backslashed valid
  rw [empty] at texts
  exact some texts.symm

theorem Pattern.validate_backslashed (text : Text) : validate text.backslashed = .ok () := by
  have faultless : (Token.tokenize text.backslashed).findSome? fault? = none := by
    rw [List.findSome?_eq_none_iff]
    intro token mem
    rw [fault?, Token.literal_backslashed text token mem]
    rfl
  rw [validate_eq text.isUtf8_backslashed, faultless]
  rfl

theorem Reference.render_backslashed (t : Moment) {text : Text} (valid : text.isUtf8 = true) :
    render t text.backslashed = .ok text := by
  have copied : ∀ tok ∈ Token.tokenize text.backslashed, token t tok = tok.text := by
    intro tok mem
    rw [token, Token.literal_backslashed text tok mem]
    rfl
  rw [render_eq, Pattern.validate_backslashed, List.flatMap_congr copied,
    Token.texts_backslashed valid]

/-- The decisions for such a format: every character is copied. -/
theorem Resolution.decided_backslashed (engine : Engine) (text : Text) :
    ∀ part ∈ (Token.tokenize text.backslashed).map (decided engine), part.manner = .literal := by
  intro part mem
  obtain ⟨token, listed, rfl⟩ := List.mem_map.mp mem
  rw [decided, Token.literal_backslashed text token listed]
  rfl

/-- Such a format is planned as one native fragment. -/
theorem plan_backslashed (engine : Engine) {text : Text} (valid : text.isUtf8 = true)
    (some : text ≠ []) :
    plan engine.kind text.backslashed =
      .ok [⟨false, (Token.tokenize text.backslashed).map (Resolution.decided engine)⟩] := by
  refine plan_of_native (Pattern.validate_backslashed text) (Text.backslashed_ne_nil valid some) ?_
  rintro token mem ⟨unescaped, -⟩
  rw [Token.literal_backslashed text token mem] at unescaped
  cases unescaped

/-! ## Reading literal text -/

namespace Literal

/-- Reads text in which `mark` takes the next character along. That character must be one of those
that may be `taken`, and any other character must be one of those that may stand `bare`. A mark at
the end cannot be read. -/
def readMarked (mark : Char) (taken bare : Char → Bool) : List Char → Option (List Char)
  | [] => some []
  | [c] => if c ≠ mark ∧ bare c then some [c] else none
  | c :: d :: rest =>
    if c = mark then
      if taken d then (readMarked mark taken bare rest).map (d :: ·) else none
    else if bare c then (readMarked mark taken bare (d :: rest)).map (c :: ·) else none

/-- Reads text between double quotes, where a backslash takes the next character along, or text
without quotes, which may hold no letter, double quote or backslash. -/
def readQuoted (cs : List Char) : Option (List Char) :=
  if cs.head? = some '"' then
    if cs.tail.getLast? = some '"' then
      readMarked '\\' (fun _ => true) (· ≠ '"') cs.tail.dropLast
    else none
  else if cs.any fun c => CharClass.isLetter c || c = '"' || c = '\\' then none
  else some cs

/-- Whether SQL Server reads a character without a backslash as text. -/
def sqlserverBare (c : Char) : Bool :=
  !(CharClass.isLetter c || ['/', '%', '"', '\''].contains c)

/-- The text that a format without specifiers stands for, by the rules of an engine. -/
def readChars : Engine → List Char → Option (List Char)
  | .mysql | .sqlite => readMarked '%' (· = '%') fun _ => true
  | .postgres => readQuoted
  | .sqlserver => readMarked '\\' (fun _ => true) sqlserverBare

/-- Reads a format of text only; bytes that are not UTF-8 cannot be read. -/
def read (engine : Engine) (format : Text) : Option Text :=
  if format.isUtf8 then (readChars engine format.chars).map Text.ofChars else none

-- text that has to be escaped cannot be read without its marks
example : read .mysql "a%%" = some "a%" ∧ read .mysql "a%" = none ∧
    read .postgres "\"%a\\\\\"" = some "%a\\" ∧ read .postgres "%a" = none ∧
    read .sqlserver "\\%\\a" = some "%a" ∧ read .sqlserver "%\\a" = none := by decide

theorem read_ofChars (engine : Engine) (cs : List Char) :
    read engine (Text.ofChars cs) = (readChars engine cs).map Text.ofChars := by
  have valid : (Text.ofChars cs).isUtf8 = true := (Text.isUtf8_iff _).mpr ⟨cs, rfl⟩
  rw [read, if_pos valid, Text.chars_ofChars]

section Marked

variable {mark : Char} {taken bare : Char → Bool}

theorem readMarked_taken {c : Char} (h : taken c = true) (rest : List Char) :
    readMarked mark taken bare (mark :: c :: rest) =
      (readMarked mark taken bare rest).map (c :: ·) := by
  rw [readMarked, if_pos rfl, if_pos h]

theorem readMarked_bare {c : Char} (other : c ≠ mark) (h : bare c = true) (rest : List Char) :
    readMarked mark taken bare (c :: rest) = (readMarked mark taken bare rest).map (c :: ·) := by
  cases rest with
  | nil => exact if_pos ⟨other, h⟩
  | cons d rest => rw [readMarked, if_neg other, if_pos h]

theorem eq_of_readMarked_singleton {c : Char} {cs : List Char}
    (h : readMarked mark taken bare [c] = some cs) : cs = [c] := by
  rw [readMarked] at h
  split_ifs at h
  exact (Option.some.inj h).symm

/-- Characters that are written one by one, with a mark or bare, are read back. -/
theorem readMarked_flatMap {written : Char → List Char}
    (each : ∀ c, (written c = [mark, c] ∧ taken c = true) ∨
      (written c = [c] ∧ c ≠ mark ∧ bare c = true)) (cs : List Char) :
    readMarked mark taken bare (cs.flatMap written) = some cs := by
  induction cs with
  | nil => rfl
  | cons c cs ih =>
    rw [List.flatMap_cons]
    obtain ⟨marked, h⟩ | ⟨plain, other, h⟩ := each c
    · rw [marked, List.cons_append, List.singleton_append, readMarked_taken h, ih]
      rfl
    · rw [plain, List.singleton_append, readMarked_bare other h, ih]
      rfl

end Marked

/-! ## Reading what is written -/

open NativeFormat

theorem readChars_percent {engine : Engine} (percent : engine = .mysql ∨ engine = .sqlite)
    (cs : List Char) : readChars engine (cs.flatMap Percent.escapedChar) = some cs := by
  have written : ∀ c, (Percent.escapedChar c = ['%', c] ∧ decide (c = '%') = true) ∨
      (Percent.escapedChar c = [c] ∧ c ≠ '%' ∧ true = true) := by
    intro c
    by_cases hc : c = '%'
    · exact .inl ⟨by rw [Percent.escapedChar, if_pos hc, hc], decide_eq_true hc⟩
    · exact .inr ⟨if_neg hc, hc, rfl⟩
  obtain rfl | rfl := percent
  · exact readMarked_flatMap written cs
  · exact readMarked_flatMap written cs

theorem readChars_postgres (cs : List Char) :
    readChars .postgres (Postgres.literalChars cs) = some cs := by
  show readQuoted (Postgres.literalChars cs) = some cs
  unfold Postgres.literalChars
  by_cases quotes : cs.any postgresQuotes = true
  · have written : ∀ c, (Postgres.quotedChar c = ['\\', c] ∧ true = true) ∨
        (Postgres.quotedChar c = [c] ∧ c ≠ '\\' ∧ decide (c ≠ '"') = true) := by
      intro c
      by_cases special : c = '\\' ∨ c = '"'
      · exact .inl ⟨if_pos special, rfl⟩
      · obtain ⟨backslash, quote⟩ := not_or.mp special
        exact .inr ⟨if_neg special, backslash, decide_eq_true quote⟩
    rw [if_pos quotes, readQuoted, List.head?_cons, if_pos rfl, List.tail_cons,
      List.getLast?_concat, if_pos rfl, List.dropLast_concat]
    exact readMarked_flatMap written cs
  · have bare : (cs.any fun c => CharClass.isLetter c || c = '"' || c = '\\') = false :=
      Bool.eq_false_iff.mpr quotes
    have start : cs.head? ≠ some '"' := by
      intro front
      obtain ⟨rest, rfl⟩ := List.head?_eq_some_iff.mp front
      cases bare
    rw [if_neg quotes, readQuoted, if_neg start, bare]
    rfl

theorem readChars_sqlserver (cs : List Char) :
    readChars .sqlserver (Sqlserver.guardedChars (cs.flatMap Sqlserver.escapedChar)) = some cs := by
  have written : ∀ c, (Sqlserver.escapedChar c = ['\\', c] ∧ true = true) ∨
      (Sqlserver.escapedChar c = [c] ∧ c ≠ '\\' ∧ sqlserverBare c = true) := by
    intro c
    by_cases escaped : sqlserverEscapes c = true
    · exact .inl ⟨if_pos escaped, rfl⟩
    · refine .inr ⟨if_neg escaped, ?_, ?_⟩
      · rintro rfl
        exact escaped (by decide)
      · simp only [sqlserverEscapes, List.contains_cons, Bool.or_eq_true, beq_iff_eq,
          not_or] at escaped
        simp [sqlserverBare, escaped]
  have unguarded : readMarked '\\' (fun _ => true) sqlserverBare
      (cs.flatMap Sqlserver.escapedChar) = some cs := readMarked_flatMap written cs
  show readMarked '\\' (fun _ => true) sqlserverBare _ = some cs
  unfold Sqlserver.guardedChars
  split_ifs with single
  · -- a single character was written bare, and the backslash in front of it takes it along
    obtain ⟨c, one⟩ := List.length_eq_one_iff.mp single
    rw [one] at unguarded ⊢
    rw [eq_of_readMarked_singleton unguarded]
    exact readMarked_taken rfl []
  · exact unguarded

/-- What an engine is given for literal text is read as that text. -/
theorem exists_written (engine : Engine) (cs : List Char) :
    ∃ written, guarded engine.kind (escape engine.kind (Text.ofChars cs)) = Text.ofChars written ∧
      readChars engine written = some cs ∧ (engine = .sqlserver → written.length ≠ 1) := by
  have doubled {engine : Engine} (percent : engine = .mysql ∨ engine = .sqlite) :
      escape engine.kind (Text.ofChars cs) = Text.ofChars (cs.flatMap Percent.escapedChar) := by
    rw [Percent.escape_eq percent, Percent.replaceByte_ofChars]
  cases engine with
  | mysql => exact ⟨_, doubled (.inl rfl), readChars_percent (.inl rfl) cs, Engine.noConfusion⟩
  | sqlite => exact ⟨_, doubled (.inr rfl), readChars_percent (.inr rfl) cs, Engine.noConfusion⟩
  | postgres => exact ⟨_, Postgres.escape_eq cs, readChars_postgres cs, Engine.noConfusion⟩
  | sqlserver =>
    refine ⟨_, ?_, readChars_sqlserver cs, fun _ => Sqlserver.length_guardedChars _⟩
    rw [Sqlserver.escape_eq, Text.chars_ofChars, Sqlserver.guarded_eq]

end Literal

/-! ## Fragments of text only -/

namespace NativeFormat

/-- Parts that are all copied are one run. -/
theorem runs_literal {parts : List Resolution} (some : parts ≠ [])
    (literal : ∀ part ∈ parts, part.manner = .literal) :
    runs parts = [.literal (parts.flatMap fun part => part.token.text)] := by
  induction parts with
  | nil => exact absurd rfl some
  | cons part rest ih =>
    obtain ⟨first, others⟩ := List.forall_mem_cons.mp literal
    rw [runs, first, if_neg Manner.noConfusion, List.flatMap_cons]
    cases rest with
    | nil => rw [List.flatMap_nil, List.append_nil, runs]
    | cons next rest => rw [ih (List.cons_ne_nil next rest) others]

/-- The format of parts that are all copied is their text, escaped as a whole. -/
theorem ofParts_literal (kind : Kind) {parts : List Resolution} (some : parts ≠ [])
    (literal : ∀ part ∈ parts, part.manner = .literal) :
    ofParts kind parts =
      guarded kind (escape kind (parts.flatMap fun part => part.token.text)) := by
  rw [ofParts, runs_literal some literal, write, write, List.append_nil]

theorem ofParts_backslashed (engine : Engine) {text : Text} (valid : text.isUtf8 = true)
    (some : text ≠ []) :
    ofParts engine.kind ((Token.tokenize text.backslashed).map (Resolution.decided engine)) =
      guarded engine.kind (escape engine.kind text) := by
  have texts : ((Token.tokenize text.backslashed).map (Resolution.decided engine)).flatMap
      (fun part => part.token.text) = text := by
    simp only [List.flatMap_map, Resolution.token_decided]
    exact Token.texts_backslashed valid
  have parts : (Token.tokenize text.backslashed).map (Resolution.decided engine) ≠ [] := by
    intro none
    rw [none] at texts
    exact some texts.symm
  rw [ofParts_literal engine.kind parts (Resolution.decided_backslashed engine text), texts]

end NativeFormat

/-- **Any text can be written with backslashes.** A text with a backslash in front of every
character is accepted as a format. The reference formatter gives the text for every moment. Every
engine gets one native fragment, or none for an empty text, and what stands in the fragment is the
text by the literal rules of the engine; on SQL Server it is never a single character. -/
theorem backslashed_text_is_literal (text : Text) (valid : text.isUtf8 = true) :
    Pattern.validate text.backslashed = .ok () ∧
    (∀ t, Reference.render t text.backslashed = .ok text) ∧
    ∀ engine : Engine,
      (text = [] → plan engine.kind text.backslashed = .ok []) ∧
      (text ≠ [] → ∃ parts, plan engine.kind text.backslashed = .ok [⟨false, parts⟩] ∧
        Literal.read engine (NativeFormat.ofParts engine.kind parts) = some text ∧
        (engine = .sqlserver → (NativeFormat.ofParts engine.kind parts).charCount ≠ 1)) := by
  refine ⟨Pattern.validate_backslashed text, fun t => Reference.render_backslashed t valid, ?_⟩
  intro engine
  refine ⟨?_, ?_⟩
  · rintro rfl
    cases engine <;> rfl
  · intro some
    obtain ⟨cs, rfl⟩ := (Text.isUtf8_iff text).mp valid
    obtain ⟨written, format, reads, guard⟩ := Literal.exists_written engine cs
    refine ⟨_, plan_backslashed engine valid some, ?_⟩
    rw [NativeFormat.ofParts_backslashed engine valid some, format, Literal.read_ofChars, reads,
      Text.charCount_ofChars]
    exact ⟨rfl, guard⟩

/-- A letter that is not in ASCII and the characters that some engine escapes; a single character,
which SQL Server escapes although the character is none of those; and no text at all. -/
theorem backslashed_text_is_literal_example :
    let text := Text.ofChars ['é', '\\', '"', '%']
    let dash : Text := "-"
    text.isUtf8 = true ∧ dash.isUtf8 = true ∧
    text.backslashed = Text.ofChars ['\\', 'é', '\\', '\\', '\\', '"', '\\', '%'] ∧
    (∀ t, Reference.render t text.backslashed = .ok text) ∧
    (∀ engine : Engine, ∃ parts, plan engine.kind text.backslashed = .ok [⟨false, parts⟩] ∧
      Literal.read engine (NativeFormat.ofParts engine.kind parts) = some text) ∧
    (∃ parts, plan Engine.sqlserver.kind dash.backslashed = .ok [⟨false, parts⟩] ∧
      (NativeFormat.ofParts Engine.sqlserver.kind parts).charCount ≠ 1) ∧
    ∀ engine : Engine, plan engine.kind (Text.backslashed []) = .ok [] := by
  intro text dash
  have valid : text.isUtf8 = true := by decide
  have single : dash.isUtf8 = true := by decide
  obtain ⟨-, renders, plans⟩ := backslashed_text_is_literal text valid
  obtain ⟨-, -, singles⟩ := backslashed_text_is_literal dash single
  obtain ⟨-, -, empties⟩ := backslashed_text_is_literal [] (by decide)
  refine ⟨valid, single, by decide, renders, ?_, ?_, fun engine => (empties engine).1 rfl⟩
  · intro engine
    obtain ⟨parts, planned, reads, -⟩ := (plans engine).2 (by decide)
    exact ⟨parts, planned, reads⟩
  · obtain ⟨parts, planned, -, guard⟩ := (singles .sqlserver).2 (by decide)
    exact ⟨parts, planned, guard rfl⟩

end DatePattern
