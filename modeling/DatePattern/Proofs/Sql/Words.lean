import DatePattern.Proofs.Sql.Scan
import DatePattern.Proofs.Text.Split

/-!
# The words of SQL

Outside strings, identifiers and parentheses SQL is read in words: white space ends a word, a
comma ends one and is one itself, and what stands in quotes or parentheses belongs to the word
in which it opens.

- `words`: the words of a text, if its quotes and parentheses close;
- `words_append`: a separator cuts the words of a text from those of the text behind it;
- `words_solid`, `words_parens`: texts that are one word;
- `before`, `behind`, `unparen`: taking words apart;
- `isOperandWord`, `IsOperand`: a text between whose words no sign of comparison and no word
  such as `and` or `is` stands. Put next to one of those, it is what they apply to.
-/

namespace DatePattern.Scan

variable {lex : Lexicon}

/-! ## Cutting into words -/

/-- A scan that has read nothing. -/
def start : State := ⟨.outside, 0⟩

/-- Puts a word in front of others, unless it is empty. -/
def addWord (word : Text) (words : List Text) : List Text :=
  if word.isEmpty then words else word :: words

/-- The words of a text behind the part of a word that has been read. There are none where the
scan stops or ends in quotes or parentheses. -/
def wordsFrom (lex : Lexicon) : State → (word : Text) → Text → Option (List Text)
  | s, word, [] => if s.isTop then some (addWord word []) else none
  | s, word, b :: rest =>
    if isSeparator b && s.isTop then
      (wordsFrom lex start [] rest).map fun words =>
        addWord word (if isBlank b then words else [b] :: words)
    else (step lex s b).bind fun s' => wordsFrom lex s' (word ++ [b]) rest

/-- The words of a text. -/
def words (lex : Lexicon) (text : Text) : Option (List Text) := wordsFrom lex start [] text

theorem addWord_append (word : Text) (xs ys : List Text) :
    addWord word xs ++ ys = addWord word (xs ++ ys) := by
  rw [addWord, addWord]
  split <;> rfl

/-- Behind a complete text a separator starts afresh. -/
theorem wordsFrom_append {s : State} {word text : Text} {ws : List Text}
    (h : wordsFrom lex s word text = some ws) {b : UInt8} (separates : isSeparator b = true)
    (rest : Text) :
    wordsFrom lex s word (text ++ b :: rest) = (words lex rest).map fun others =>
      ws ++ if isBlank b then others else [b] :: others := by
  induction text generalizing s word ws with
  | nil =>
    rw [wordsFrom] at h
    split at h
    · next top =>
      cases h
      rw [List.nil_append, wordsFrom, separates, top, Bool.and_self, if_pos rfl, words]
      simp only [addWord_append, List.nil_append]
    · cases h
  | cons c text ih =>
    rw [wordsFrom] at h
    rw [List.cons_append, wordsFrom]
    split at h
    · next cut =>
      obtain ⟨others, found, rfl⟩ := Option.map_eq_some_iff.mp h
      rw [if_pos cut, ih found, Option.map_map]
      congr 1
      funext more
      rw [Function.comp, addWord_append]
      split <;> rfl
    · next cut =>
      obtain ⟨next, stepped, found⟩ := Option.bind_eq_some_iff.mp h
      rw [if_neg cut, stepped, Option.bind_some]
      exact ih found

theorem words_append {text rest : Text} {ws others : List Text} (h : words lex text = some ws)
    (h' : words lex rest = some others) :
    words lex (text ++ " " ++ rest) = some (ws ++ others) := by
  have cut := wordsFrom_append h (rfl : isSeparator 0x20 = true) rest
  rw [h'] at cut
  rw [List.append_assoc]
  exact cut

theorem words_append_comma {text rest : Text} {ws others : List Text}
    (h : words lex text = some ws) (h' : words lex rest = some others) :
    words lex (text ++ ", " ++ rest) = some (ws ++ ("," : Text) :: others) := by
  have cut := wordsFrom_append h (rfl : isSeparator 0x2C = true) (" " ++ rest)
  have behind : words lex (" " ++ rest) = some others :=
    words_append (rfl : words lex [] = some []) h'
  rw [behind] at cut
  rw [List.append_assoc]
  exact cut

/-- A text without a break continues the word in front of it. -/
theorem wordsFrom_solid {s s' : State} {text : Text} (h : text.foldlM (solidStep lex) s = some s')
    (word rest : Text) :
    wordsFrom lex s word (text ++ rest) = wordsFrom lex s' (word ++ text) rest := by
  induction text generalizing s word with
  | nil =>
    cases h
    rw [List.nil_append, List.append_nil]
  | cons b text ih =>
    obtain ⟨next, stepped, ran⟩ := Option.bind_eq_some_iff.mp h
    have uncut : (isSeparator b && s.isTop) ≠ true := by
      intro cut
      rw [Bool.and_eq_true] at cut
      rw [solidStep, isBreak, cut.1, cut.2] at stepped
      cases stepped
    rw [List.cons_append, wordsFrom, if_neg uncut, step_of_solidStep stepped, Option.bind_some,
      ih ran, List.append_assoc]
    rfl

theorem words_of_solidRun {text : Text} {s : State} (nonempty : text ≠ [])
    (h : text.foldlM (solidStep lex) start = some s) (top : s.isTop = true) :
    words lex text = some [text] := by
  have whole := wordsFrom_solid h [] []
  rw [List.append_nil, List.nil_append, wordsFrom, if_pos top, addWord, if_neg] at whole
  · exact whole
  · simpa using nonempty

/-- A text without a break is one word. -/
theorem words_solid {text : Text} (nonempty : text ≠ [])
    (h : Solid lex .fresh 0 text .settled 0) : words lex text = some [text] := by
  obtain ⟨⟨mode, depth⟩, folded, hm, rfl⟩ := h start rfl
  exact words_of_solidRun nonempty folded (isTop_of_settled hm)

/-! ## Parentheses around words -/

theorem isInert_of_isSeparator {b : UInt8} (h : isSeparator b = true) : isInert b = true := by
  rw [isInert, Bool.not_eq_true', ← Bool.not_eq_true, List.contains_iff_mem]
  intro mem
  have apart : ([0x22, 0x27, 0x28, 0x29, 0x2D, 0x2F, 0x5B, 0x5D, 0x60] : Text).all
      (fun c => !isSeparator c) = true := rfl
  have none := List.all_eq_true.mp apart b mem
  rw [h] at none
  cases none

/-- Outside quotes a scan that meets an inert byte forgets what was pending. -/
theorem step_inert_of_outside (engine : Engine) {b : UInt8} (h : isInert b = true)
    {s : State} (outside : s.mode.isOutside = true) (star : b ≠ 0x2A) :
    step engine.lexicon s b = some ⟨.outside, s.depth⟩ := by
  simp only [isInert, List.contains_cons, List.contains_nil, Bool.or_false, Bool.not_eq_true',
    Bool.or_eq_false_iff, beq_eq_false_iff_ne] at h
  obtain ⟨mode, depth⟩ := s
  cases mode <;> cases outside <;> cases engine <;>
    simp [step, stepOutside, Engine.lexicon, h, star]

/-- Where words are read, the scan comes to the end of the text outside everything. -/
theorem run_of_wordsFrom {engine : Engine} {s : State} {word text : Text} {ws : List Text}
    (h : wordsFrom engine.lexicon s word text = some ws) :
    ∃ mode, run engine.lexicon s text = some ⟨mode, 0⟩ ∧ mode.isOutside = true := by
  induction text generalizing s word ws with
  | nil =>
    rw [wordsFrom] at h
    split at h
    · next top =>
      rw [State.isTop, Bool.and_eq_true, beq_iff_eq] at top
      exact ⟨s.mode, by rw [run_nil, ← top.2], top.1⟩
    · cases h
  | cons b rest ih =>
    rw [wordsFrom] at h
    rw [run_cons]
    split at h
    · next cut =>
      -- the words start afresh behind a separator, and so does the scan
      rw [Bool.and_eq_true, State.isTop, Bool.and_eq_true, beq_iff_eq] at cut
      obtain ⟨others, found, -⟩ := Option.map_eq_some_iff.mp h
      have star : b ≠ 0x2A := by
        rintro rfl
        exact absurd cut.1 (by decide)
      rw [step_inert_of_outside engine (isInert_of_isSeparator cut.1) cut.2.1 star, cut.2.2]
      exact ih found
    · obtain ⟨next, stepped, found⟩ := Option.bind_eq_some_iff.mp h
      rw [stepped]
      exact ih found

theorem sealed_of_words {engine : Engine} {text : Text} {ws : List Text}
    (h : words engine.lexicon text = some ws) : Sealed engine.lexicon text :=
  run_of_wordsFrom h

theorem step_close (engine : Engine) {mode : Mode} (outside : mode.isOutside = true)
    (depth : Nat) : step engine.lexicon ⟨mode, depth + 1⟩ 0x29 = some ⟨.outside, depth⟩ := by
  cases mode <;> cases outside <;> cases engine <;> rfl

/-- Parentheses make a sealed text one word. -/
theorem words_parens {engine : Engine} {text : Text} (h : Sealed engine.lexicon text) :
    words engine.lexicon ("(" ++ text ++ ")") = some ["(" ++ text ++ ")"] := by
  obtain ⟨mode, ran, outside⟩ := h
  have opened : ("(" : Text).foldlM (solidStep engine.lexicon) start = some (start.deeper 1) := by
    cases engine <;> rfl
  have inside := solidRun_deeper ran
  have closed : (")" : Text).foldlM (solidStep engine.lexicon) (State.deeper 1 ⟨mode, 0⟩)
      = some start := by
    show (solidStep engine.lexicon ⟨mode, 1⟩ 0x29).bind some = _
    rw [solidStep_of_not_break rfl, step_close engine outside, Option.bind_some]
    rfl
  refine words_of_solidRun (List.cons_ne_nil _ _) ?_ (rfl : start.isTop = true)
  rw [List.foldlM_append, List.foldlM_append, opened, Option.bind_eq_bind, Option.bind_some,
    start, inside, Option.bind_some]
  exact closed

/-! ## Taking words apart -/

/-- The words before the first `word`. -/
def before (word : Text) (words : List Text) : List Text := words.takeWhile (· != word)

/-- The words behind the first `word`. -/
def behind (word : Text) (words : List Text) : List Text := (words.dropWhile (· != word)).tail

/-- What stands in the parentheses that are around a word. -/
def unparen (word : Text) : Option Text :=
  if word.head? = some 0x28 ∧ word.getLast? = some 0x29 then some word.tail.dropLast else none

theorem span_word {word : Text} {left : List Text} (free : word ∉ left) (right : List Text) :
    before word (left ++ word :: right) = left ∧ behind word (left ++ word :: right) = right := by
  have span := Text.span_until free (word :: right) (by simp)
  exact ⟨span.1, congrArg List.tail span.2⟩

theorem unparen_parens (text : Text) : unparen ("(" ++ text ++ ")") = some text := by
  have last : ("(" ++ text ++ ")" : Text).getLast? = some 0x29 := List.getLast?_concat
  rw [unparen, if_pos ⟨rfl, last⟩]
  show some (List.dropLast (text ++ [0x29])) = some text
  rw [List.dropLast_concat]

/-! ## Operands -/

/-- The words that bind no tighter than a comparison or belong to a clause, in lower case. -/
def reserved : List Text :=
  ["and", "or", "xor", "not", "is", "isnull", "notnull", "null", "between", "in", "like", "ilike",
    "rlike", "glob", "regexp", "match", "similar", "sounds", "overlaps", "escape", "distinct",
    "from", "leading", "trailing", "both", "as", "case", "when", "then", "else", "end", "select",
    "where", "union"]

/-- A byte with an ASCII capital made small. -/
def smallLetter (b : UInt8) : UInt8 := if 0x41 ≤ b ∧ b ≤ 0x5A then b + 0x20 else b

/-- Whether a word is reserved, in capitals or small letters. -/
def isReserved (word : Text) : Bool := reserved.contains (word.map smallLetter)

/-- Whether a byte is an ASCII letter. -/
def isLetter (b : UInt8) : Bool := (0x41 ≤ b && b ≤ 0x5A) || (0x61 ≤ b && b ≤ 0x7A)

theorem isLetter_of_smallLetter {b : UInt8} (h : isLetter (smallLetter b) = true) :
    isLetter b = true := by
  rw [smallLetter] at h
  split at h
  · next capital => simp [isLetter, capital]
  · exact h

/-- Reserved words consist of letters. -/
theorem isReserved_eq_false {word : Text} {b : UInt8} (mem : b ∈ word)
    (other : isLetter b = false) : isReserved word = false := by
  have letters : reserved.all (·.all isLetter) = true := by decide
  rw [isReserved, ← Bool.not_eq_true, List.contains_iff_mem]
  intro contained
  have all := List.all_eq_true.mp letters _ contained
  have small := List.all_eq_true.mp all _ (List.mem_map_of_mem mem)
  rw [isLetter_of_smallLetter small] at other
  cases other

/-- Whether a word may stand in an operand: it is not reserved and has no sign of comparison. -/
def isOperandWord (lex : Lexicon) (word : Text) : Bool :=
  (word.foldlM (solidStep lex) start).isSome && !isReserved word

/-- Words that make up an operand. -/
def AreOperand (lex : Lexicon) (ws : List Text) : Prop :=
  ws ≠ [] ∧ ws.all (isOperandWord lex) = true

theorem not_mem_of_operands {ws : List Text} (h : ws.all (isOperandWord lex) = true)
    {word : Text} (other : isOperandWord lex word = false) : word ∉ ws := by
  intro mem
  rw [List.all_eq_true.mp h word mem] at other
  cases other

/-- No reserved word stands in an operand. -/
theorem not_mem_of_isReserved {ws : List Text} (h : ws.all (isOperandWord lex) = true)
    {word : Text} (taken : isReserved word = true) : word ∉ ws := by
  apply not_mem_of_operands h
  rw [isOperandWord, taken, Bool.not_true, Bool.and_false]

/-- A text that stands for a value wherever an operand of a comparison does. -/
structure IsOperand (engine : Engine) (text : Text) : Prop where
  passes : Passes engine.lexicon text
  reads : ∃ ws, words engine.lexicon text = some ws ∧ AreOperand engine.lexicon ws

/-- One word that is not reserved is an operand. -/
theorem IsOperand.ofSolid {engine : Engine} {text : Text} (nonempty : text ≠ [])
    (free : isReserved text = false) (h : Solid engine.lexicon .fresh 0 text .settled 0) :
    IsOperand engine text := by
  obtain ⟨s, folded, -⟩ := h start rfl
  refine ⟨h.moves, [text], words_solid nonempty h, List.cons_ne_nil _ _, ?_⟩
  simp [isOperandWord, folded, free]

theorem IsOperand.ofMem {engine : Engine} {text : Text} {b : UInt8} (mem : b ∈ text)
    (other : isLetter b = false) (h : Solid engine.lexicon .fresh 0 text .settled 0) :
    IsOperand engine text :=
  .ofSolid (List.ne_nil_of_mem mem) (isReserved_eq_false mem other) h

/-- What ends with a closing parenthesis is no reserved word. -/
theorem IsOperand.ofClosed {engine : Engine} {text closing : Text}
    (closes : closing.contains 0x29 = true)
    (h : Solid engine.lexicon .fresh 0 (text ++ closing) .settled 0) :
    IsOperand engine (text ++ closing) :=
  .ofMem (List.mem_append_right text (List.contains_iff_mem.mp closes)) rfl h

end DatePattern.Scan
