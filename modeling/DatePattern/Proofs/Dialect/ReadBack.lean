import DatePattern.Proofs.Sql.Scan
import DatePattern.Proofs.Text.Split

/-!
# Reading quoted text back

Quoting has a reader for its other side: it takes a quoted text off the front of what is left to
read, and gives the text that was meant together with the rest.

- `Delimited.read`: one reader for what stands between quotes. Strings and identifiers differ
  only in their closing quote and in whether a backslash escapes;
- `Delimited.read_written`: the bytes of a text, as they are written, are read as the text,
  whatever stands behind them;
- `Delimited.read_closed_iff`: the reader then stops at the closing quote exactly when no second
  one follows.

From these, string literals and dotted names of any bytes read back.
-/

namespace DatePattern

namespace Delimited

/-- Puts a byte in front of the text that a reader has found. -/
def push (b : UInt8) (found : Text × Text) : Text × Text := (b :: found.1, found.2)

/-- Reads behind an opening quote, up to the closing one: the text, and what is left. The closing
quote twice is one of them; where a backslash escapes, the byte behind it stands for itself. -/
def read (closing : UInt8) (backslash : Bool) : Text → Option (Text × Text)
  | [] => none
  | [b] => if b = closing then some ([], []) else none
  | b :: c :: rest =>
    if b = closing then
      if c = closing then (read closing backslash rest).map (push closing) else some ([], c :: rest)
    else if backslash ∧ b = 0x5C then (read closing backslash rest).map (push c)
    else (read closing backslash (c :: rest)).map (push b)

/-- A byte as it is written between quotes. -/
def writtenByte (closing : UInt8) (backslash : Bool) (b : UInt8) : Text :=
  if b = closing then [closing, closing] else if backslash ∧ b = 0x5C then [0x5C, 0x5C] else [b]

variable {closing : UInt8} {backslash : Bool}

theorem read_doubled (rest : Text) :
    read closing backslash (closing :: closing :: rest)
      = (read closing backslash rest).map (push closing) := by
  rw [read, if_pos rfl, if_pos rfl]

theorem read_escaped {b : UInt8} (quote : b ≠ closing) (escapes : backslash ∧ b = 0x5C)
    (c : UInt8) (rest : Text) :
    read closing backslash (b :: c :: rest) = (read closing backslash rest).map (push c) := by
  rw [read, if_neg quote, if_pos escapes]

theorem read_plain {b : UInt8} (quote : b ≠ closing) (plain : ¬ (backslash ∧ b = 0x5C))
    (rest : Text) :
    read closing backslash (b :: rest) = (read closing backslash rest).map (push b) := by
  cases rest with
  | nil => simp [read, quote]
  | cons c rest => rw [read, if_neg quote, if_neg plain]

theorem read_writtenByte (b : UInt8) (more : Text) :
    read closing backslash (writtenByte closing backslash b ++ more)
      = (read closing backslash more).map (push b) := by
  rw [writtenByte]
  split_ifs with quote escapes
  · rw [quote]
    exact read_doubled more
  · have inside : (0x5C : UInt8) ≠ closing := escapes.2 ▸ quote
    rw [escapes.2]
    exact read_escaped inside ⟨escapes.1, rfl⟩ 0x5C more
  · exact read_plain quote escapes more

/-- A text as it is written is read as itself, and reading goes on behind it. -/
theorem read_written (text more : Text) :
    read closing backslash (text.flatMap (writtenByte closing backslash) ++ more)
      = (read closing backslash more).map (Prod.map (text ++ ·) id) := by
  induction text with
  | nil =>
    show read closing backslash more = _
    cases read closing backslash more <;> rfl
  | cons b text ih =>
    rw [List.flatMap_cons, List.append_assoc, read_writtenByte, ih, Option.map_map]
    rfl

theorem read_closing {rest : Text} (ends : rest.head? ≠ some closing) :
    read closing backslash (closing :: rest) = some ([], rest) := by
  cases rest with
  | nil => rw [read, if_pos rfl]
  | cons c rest =>
    have other : c ≠ closing := fun same => ends (congrArg some same)
    rw [read, if_pos rfl, if_neg other]

/-- Behind a text and its closing quote, exactly a second closing quote makes the reader go on. -/
theorem read_closed_iff (text rest : Text) :
    read closing backslash (text.flatMap (writtenByte closing backslash) ++ closing :: rest)
      = some (text, rest) ↔ rest.head? ≠ some closing := by
  rw [read_written]
  constructor
  · intro stops begins
    obtain ⟨more, rfl⟩ : ∃ more, rest = closing :: more := List.head?_eq_some_iff.mp begins
    -- the quote behind the text has become a part of it, so what is read is longer
    rw [read_doubled, Option.map_map] at stops
    obtain ⟨found, -, longer⟩ := Option.map_eq_some_iff.mp stops
    have same : text ++ closing :: found.1 = text := congrArg Prod.fst longer
    simp at same
  · intro ends
    rw [read_closing ends, Option.map_some]
    simp

end Delimited

/-! ## String literals -/

/-- Reads a string literal. -/
def readString (backslash : Bool) : Text → Option (Text × Text)
  | [] => none
  | b :: rest => if b = 0x27 then Delimited.read 0x27 backslash rest else none

/-- A string literal is its text as it is written between quotes. -/
theorem readString_eq (g : Grammar) (text rest : Text) :
    readString g.backslash (g.string text ++ rest)
      = Delimited.read 0x27 g.backslash
          (text.flatMap (Delimited.writtenByte 0x27 g.backslash) ++ 0x27 :: rest) := by
  have written : g.stringByte = Delimited.writtenByte 0x27 g.backslash := rfl
  rw [Grammar.string_eq, List.cons_append, readString, if_pos rfl, List.append_assoc, written]
  rfl

/-- **String literals read back.** Whether or not backslashes escape, the literal of a text of any
bytes is read as the text and nothing more is taken, exactly when no quote stands behind it. -/
theorem string_reads_back_iff (g : Grammar) (text rest : Text) :
    readString g.backslash (g.string text ++ rest) = some (text, rest)
      ↔ rest.head? ≠ some 0x27 := by
  rw [readString_eq]
  exact Delimited.read_closed_iff text rest

/-- In front of anything but a quote, a string literal is read as its text. -/
theorem readString_string (g : Grammar) (text : Text) {rest : Text}
    (ends : rest.head? ≠ some 0x27) :
    readString g.backslash (g.string text ++ rest) = some (text, rest) := by
  rw [readString_eq]
  exact (Delimited.read_closed_iff text rest).mpr ends

/-! ## Dotted names -/

/-- Reads a segment of a name: a bare star, or a quoted identifier. -/
def readSegment (lex : Scan.Lexicon) : Text → Option (Text × Text)
  | [] => none
  | b :: rest =>
    if b = 0x2A then some ([b], rest)
    else if b = lex.opening then Delimited.read lex.closing false rest
    else none

theorem Delimited.length_le_of_read {closing : UInt8} {backslash : Bool} {text : Text}
    {found : Text × Text} (h : read closing backslash text = some found) :
    found.2.length ≤ text.length := by
  fun_induction read closing backslash text generalizing found with
  | case1 => cases h
  | case2 =>
    cases h
    simp
  | case3 b other => cases h
  | case4 rest ih =>
    obtain ⟨inner, hi, rfl⟩ := Option.map_eq_some_iff.mp h
    exact (ih hi).trans (by simp; omega)
  | case5 c rest other =>
    cases h
    simp
  | case6 b c rest other escapes ih =>
    obtain ⟨inner, hi, rfl⟩ := Option.map_eq_some_iff.mp h
    exact (ih hi).trans (by simp; omega)
  | case7 b c rest other plain ih =>
    obtain ⟨inner, hi, rfl⟩ := Option.map_eq_some_iff.mp h
    exact (ih hi).trans (by simp)

theorem length_le_of_readSegment {lex : Scan.Lexicon} {text : Text} {found : Text × Text}
    (h : readSegment lex text = some found) : found.2.length ≤ text.length := by
  cases text with
  | nil => cases h
  | cons b rest =>
    rw [readSegment] at h
    split_ifs at h with star opening
    · cases h
      simp
    · exact (Delimited.length_le_of_read h).trans (by simp)

/-- Reads segments with dots between them, up to the end of the text. -/
def readPath (lex : Scan.Lexicon) (text : Text) : Option (List Text) :=
  match _found : readSegment lex text with
  | none => none
  | some (segment, []) => some [segment]
  | some (segment, b :: rest) =>
    if b = 0x2E then (readPath lex rest).map (segment :: ·) else none
termination_by text.length
decreasing_by exact length_le_of_readSegment _found

theorem readPath_last {lex : Scan.Lexicon} {text segment : Text}
    (h : readSegment lex text = some (segment, [])) : readPath lex text = some [segment] := by
  rw [readPath]
  split <;> simp_all

theorem readPath_dot {lex : Scan.Lexicon} {text segment rest : Text}
    (h : readSegment lex text = some (segment, 0x2E :: rest)) :
    readPath lex text = (readPath lex rest).map (segment :: ·) := by
  rw [readPath]
  split <;> simp_all

/-- A segment of a name is read as itself, unless the closing quote stands behind it. -/
theorem readSegment_segment (engine : Engine) (name : Text) {rest : Text}
    (ends : rest.head? ≠ some engine.lexicon.closing) :
    readSegment engine.lexicon (engine.grammar.segment name ++ rest) = some (name, rest) := by
  rw [Grammar.segment]
  split_ifs with star
  · rw [star]
    rfl
  · have opening : engine.grammar.opening = [engine.lexicon.opening] := by cases engine <;> rfl
    have closing : engine.endQuote = engine.lexicon.closing := by cases engine <;> rfl
    have quote : engine.lexicon.opening ≠ 0x2A := by cases engine <;> decide
    have written : engine.identifierByte
        = Delimited.writtenByte engine.lexicon.closing false := by
      funext b
      simp [Engine.identifierByte, Delimited.writtenByte, closing]
    rw [Engine.identifier_eq, opening, written, closing, List.append_assoc, List.append_assoc,
      List.singleton_append, readSegment, if_neg quote, if_pos rfl]
    exact (Delimited.read_closed_iff name rest).mpr ends

/-- Segments of any bytes, with dots between them, are read as the segments. -/
theorem readPath_segments (engine : Engine) (first : Text) (others : List Text) :
    readPath engine.lexicon (Text.joinWith "." ((first :: others).map engine.grammar.segment))
      = some (first :: others) := by
  have dot : (0x2E : UInt8) ≠ engine.lexicon.closing := by cases engine <;> decide
  induction others generalizing first with
  | nil =>
    apply readPath_last
    rw [List.map_singleton, Text.joinWith, ← List.append_nil (engine.grammar.segment first)]
    exact readSegment_segment engine first (by simp)
  | cons next others ih =>
    have joined : Text.joinWith "." ((first :: next :: others).map engine.grammar.segment)
        = engine.grammar.segment first
          ++ 0x2E :: Text.joinWith "." ((next :: others).map engine.grammar.segment) := by
      rw [List.map_cons, List.map_cons, Text.joinWith, List.append_assoc]
      · rfl
      · simp
    rw [joined, readPath_dot (readSegment_segment engine first (by simpa using dot)), ih]
    rfl

/-- **Quoted names read back.** On every engine, a dotted name of any bytes is read to its end as
its segments: stars, and quoted identifiers with their closing quotes doubled. So no two names are
quoted alike. -/
theorem path_reads_back (engine : Engine) :
    (∀ name, readPath engine.lexicon (engine.grammar.path name) = some (name.splitAtByte 0x2E)) ∧
      Function.Injective engine.grammar.path := by
  have reads : ∀ name,
      readPath engine.lexicon (engine.grammar.path name) = some (name.splitAtByte 0x2E) := by
    intro name
    obtain ⟨first, others, split⟩ :=
      List.exists_cons_of_ne_nil (Text.splitAtByte_ne_nil 0x2E name)
    rw [Grammar.path, split]
    exact readPath_segments engine first others
  refine ⟨reads, ?_⟩
  intro a b same
  have segments : a.splitAtByte 0x2E = b.splitAtByte 0x2E := by
    have both := reads a
    rw [same, reads b] at both
    exact (Option.some.inj both).symm
  rw [← Text.joinWith_splitAtByte 0x2E a, segments, Text.joinWith_splitAtByte]

end DatePattern
