import DatePattern.Proofs.Dialect.Quoting

/-!
# Scanning SQL

A lexer of SQL as far as quotes go: single-quoted strings, quoted identifiers, parentheses and
the two openings of a comment. It reads one byte at a time, so that scanning two texts one after
the other is scanning them joined (`run_append`).

- `Lexicon`: what differs between the engines;
- `step`, `run`: the scan. It stops where a parenthesis closes that was never opened and where
  a comment opens;
- `solidStep`: the same scan, but it stops also at a blank, a comma or a sign of comparison that
  stands outside quotes and parentheses, so that what it reads is one word;
- `Triple`: what a text does to a scan. Before and after it the scan is `fresh` (plainly
  outside, nothing pending) or `settled` (outside, but perhaps just behind a closing quote,
  which a further quote would take back). `Moves` is about the first scan and `Solid` about the
  second; inside parentheses they are the same (`Moves.solid`);
- `solid_string`, `solid_identifier`: quoted text of any bytes is one word, and leaves the scan
  settled.
-/

namespace DatePattern.Scan

/-! ## The lexer -/

/-- Where a scan stands. -/
inductive Mode where
  /-- Outside strings and identifiers. -/
  | outside
  /-- Outside, behind a minus sign. -/
  | dash
  /-- Outside, behind a slash. -/
  | slash
  /-- In a string. -/
  | string
  /-- In a string, behind a backslash that escapes. -/
  | escape
  /-- Behind a quote in a string: the string has ended, unless another quote follows. -/
  | stringEnd
  /-- In a quoted identifier. -/
  | identifier
  /-- Behind an end quote in an identifier: it has ended, unless another follows. -/
  | identifierEnd
  deriving DecidableEq, Repr

/-- Whether a scan stands outside strings and identifiers. -/
def Mode.isOutside : Mode → Bool
  | .string | .escape | .identifier => false
  | _ => true

/-- The lexical rules in which engines differ. -/
structure Lexicon where
  /-- What opens a quoted identifier. -/
  opening : UInt8
  /-- What closes a quoted identifier, and stands twice for itself inside. -/
  closing : UInt8
  /-- Whether a backslash in a string makes the next byte part of it. -/
  backslash : Bool

/-- A scan: where it stands and how many parentheses are open. -/
structure State where
  mode : Mode
  depth : Nat
  deriving DecidableEq, Repr

/-- Reads a byte outside strings and identifiers. -/
def stepOutside (lex : Lexicon) (s : State) (b : UInt8) : Option State :=
  if b = 0x27 then some ⟨.string, s.depth⟩
  else if b = lex.opening then some ⟨.identifier, s.depth⟩
  else if b = 0x28 then some ⟨.outside, s.depth + 1⟩
  else if b = 0x29 then
    match s.depth with
    | 0 => none
    | depth + 1 => some ⟨.outside, depth⟩
  else if b = 0x2D then if s.mode = .dash then none else some ⟨.dash, s.depth⟩
  else if b = 0x2F then some ⟨.slash, s.depth⟩
  else if b = 0x2A ∧ s.mode = .slash then none
  else some ⟨.outside, s.depth⟩

/-- Reads a byte. There is no next state where a parenthesis closes that was never opened, and
where `--` or `/*` opens a comment. -/
def step (lex : Lexicon) (s : State) (b : UInt8) : Option State :=
  match s.mode with
  | .string =>
    if b = 0x27 then some ⟨.stringEnd, s.depth⟩
    else if lex.backslash ∧ b = 0x5C then some ⟨.escape, s.depth⟩
    else some s
  | .escape => some ⟨.string, s.depth⟩
  | .stringEnd => if b = 0x27 then some ⟨.string, s.depth⟩ else stepOutside lex s b
  | .identifier => if b = lex.closing then some ⟨.identifierEnd, s.depth⟩ else some s
  | .identifierEnd => if b = lex.closing then some ⟨.identifier, s.depth⟩ else stepOutside lex s b
  | .outside | .dash | .slash => stepOutside lex s b

/-- Reads a text. -/
def run (lex : Lexicon) (s : State) (text : Text) : Option State := text.foldlM (step lex) s

/-- Scanned from its start, a text never closes a parenthesis that it did not open, opens no
comment, and ends outside strings and identifiers with every parenthesis closed. -/
def Sealed (lex : Lexicon) (text : Text) : Prop :=
  ∃ mode, run lex ⟨.outside, 0⟩ text = some ⟨mode, 0⟩ ∧ mode.isOutside = true

end DatePattern.Scan

namespace DatePattern

/-- The lexical rules of an engine. -/
def Engine.lexicon : Engine → Scan.Lexicon
  | .mysql => { opening := 0x60, closing := 0x60, backslash := true }
  | .sqlite | .postgres => { opening := 0x22, closing := 0x22, backslash := false }
  | .sqlserver => { opening := 0x5B, closing := 0x5D, backslash := false }

namespace Scan

variable {lex : Lexicon}

@[simp] theorem run_nil (s : State) : run lex s [] = some s := rfl

theorem run_cons (s : State) (b : UInt8) (text : Text) :
    run lex s (b :: text) = (step lex s b).bind fun s' => run lex s' text := rfl

theorem run_append (s : State) (a b : Text) :
    run lex s (a ++ b) = (run lex s a).bind fun s' => run lex s' b :=
  List.foldlM_append ..

/-! ## Open parentheses outside the text do not matter -/

/-- The scan with more parentheses open. -/
def State.deeper (d : Nat) (s : State) : State := ⟨s.mode, s.depth + d⟩

theorem stepOutside_deeper {s s' : State} {b : UInt8} (d : Nat)
    (h : stepOutside lex s b = some s') : stepOutside lex (s.deeper d) b = some (s'.deeper d) := by
  obtain ⟨mode, depth⟩ := s
  unfold stepOutside State.deeper at *
  dsimp only at *
  split_ifs at h ⊢ with h1 h2 h3 h4
  all_goals try cases h
  all_goals try rfl
  · rw [Nat.add_right_comm]
  · cases depth with
    | zero => cases h
    | succ depth =>
      cases h
      rw [Nat.add_right_comm]

theorem step_deeper {s s' : State} {b : UInt8} (d : Nat) (h : step lex s b = some s') :
    step lex (s.deeper d) b = some (s'.deeper d) := by
  obtain ⟨mode, depth⟩ := s
  cases mode <;> simp only [step, State.deeper] at h ⊢
  case outside | dash | slash => exact stepOutside_deeper d h
  case escape => cases h; rfl
  case string | identifier => split_ifs at h ⊢ <;> cases h <;> rfl
  case stringEnd | identifierEnd =>
    split_ifs at h ⊢
    · cases h
      rfl
    · exact stepOutside_deeper d h

theorem run_deeper {s s' : State} {text : Text} (d : Nat) (h : run lex s text = some s') :
    run lex (s.deeper d) text = some (s'.deeper d) := by
  induction text generalizing s with
  | nil =>
    cases h
    rfl
  | cons b text ih =>
    rw [run_cons] at h ⊢
    obtain ⟨next, hs, hr⟩ := Option.bind_eq_some_iff.mp h
    rw [step_deeper d hs]
    exact ih hr

/-! ## Words -/

/-- Whether a scan stands outside strings, identifiers and parentheses. -/
def State.isTop (s : State) : Bool := s.mode.isOutside && s.depth == 0

/-- White space. -/
def isBlank (b : UInt8) : Bool := b == 0x20 || (0x09 ≤ b && b ≤ 0x0D)

/-- Whether a byte stands between words: white space or a comma. -/
def isSeparator (b : UInt8) : Bool := isBlank b || b == 0x2C

/-- Whether a byte belongs to an operator that compares values or joins conditions. -/
def isSign (b : UInt8) : Bool := [0x21, 0x26, 0x3C, 0x3D, 0x3E, 0x7C, 0x7E].contains b

/-- Whether a byte ends a word. -/
def isBreak (b : UInt8) : Bool := isSeparator b || isSign b

/-- Reads a byte of a word: there is no next state where the word ends. -/
def solidStep (lex : Lexicon) (s : State) (b : UInt8) : Option State :=
  if isBreak b && s.isTop then none else step lex s b

theorem solidStep_of_not_top {s : State} (h : s.isTop = false) (b : UInt8) :
    solidStep lex s b = step lex s b := by
  simp [solidStep, h]

theorem solidStep_of_not_break {b : UInt8} (h : isBreak b = false) (s : State) :
    solidStep lex s b = step lex s b := by
  simp [solidStep, h]

theorem step_of_solidStep {s s' : State} {b : UInt8} (h : solidStep lex s b = some s') :
    step lex s b = some s' := by
  rw [solidStep] at h
  split at h
  · cases h
  · exact h

/-- In parentheses a word never ends. -/
theorem solidStep_deeper {s s' : State} {b : UInt8} (d : Nat) (h : step lex s b = some s') :
    solidStep lex (s.deeper (d + 1)) b = some (s'.deeper (d + 1)) := by
  have inside : (s.deeper (d + 1)).isTop = false := by simp [State.isTop, State.deeper]
  rw [solidStep_of_not_top inside]
  exact step_deeper (d + 1) h

/-! ## Triples -/

/-- What is known of a scan between two texts. -/
inductive Place where
  /-- It stands outside and nothing is pending. -/
  | fresh
  /-- It stands outside; an identifier or a string may just have been closed. -/
  | settled

/-- A scan stands at a place with `depth` parentheses open. -/
def Place.Holds : Place → Nat → State → Prop
  | .fresh, depth, s => s = ⟨.outside, depth⟩
  | .settled, depth, s =>
    (s.mode = .outside ∨ s.mode = .stringEnd ∨ s.mode = .identifierEnd) ∧ s.depth = depth

theorem Place.Holds.settle {p : Place} {depth : Nat} {s : State} (h : p.Holds depth s) :
    Place.settled.Holds depth s := by
  cases p with
  | fresh => exact h ▸ ⟨.inl rfl, rfl⟩
  | settled => exact h

theorem Place.Holds.deeper {p : Place} {depth : Nat} {s : State} (d : Nat) (h : p.Holds depth s) :
    p.Holds (depth + d) (s.deeper d) := by
  cases p with
  | fresh => exact h ▸ rfl
  | settled => exact ⟨h.1, congrArg (· + d) h.2⟩

/-- A scan at a greater depth is one at a smaller depth, made deeper. -/
theorem Place.Holds.exists_deeper {p : Place} {depth d : Nat} {s : State}
    (h : p.Holds (depth + d) s) : ∃ s₀, p.Holds depth s₀ ∧ s = s₀.deeper d := by
  refine ⟨⟨s.mode, depth⟩, ?_⟩
  cases p with
  | fresh => exact h ▸ ⟨rfl, rfl⟩
  | settled =>
    obtain ⟨mode, total⟩ := s
    obtain ⟨hm, rfl⟩ := h
    exact ⟨⟨hm, rfl⟩, rfl⟩

/-- From place `p` with `i` parentheses open, a text takes every scan to place `q` with `o`. -/
def Triple (advance : State → UInt8 → Option State) (p : Place) (i : Nat) (text : Text)
    (q : Place) (o : Nat) : Prop :=
  ∀ s, p.Holds i s → ∃ s', text.foldlM advance s = some s' ∧ q.Holds o s'

/-- What a text does to the scan. -/
def Moves (lex : Lexicon) : Place → Nat → Text → Place → Nat → Prop := Triple (step lex)

/-- What a text does to the scan of a word. -/
def Solid (lex : Lexicon) : Place → Nat → Text → Place → Nat → Prop := Triple (solidStep lex)

namespace Triple

variable {advance : State → UInt8 → Option State} {p q r : Place} {i j o : Nat} {a b text : Text}

theorem nil : Triple advance p i [] p i := fun s hs => ⟨s, rfl, hs⟩

theorem append (ha : Triple advance p i a q j) (hb : Triple advance q j b r o) :
    Triple advance p i (a ++ b) r o := by
  intro s hs
  obtain ⟨s', h', hs'⟩ := ha s hs
  obtain ⟨s'', h'', hs''⟩ := hb s' hs'
  refine ⟨s'', ?_, hs''⟩
  rw [List.foldlM_append, h']
  exact h''

theorem settle (h : Triple advance p i text q o) : Triple advance p i text .settled o := by
  intro s hs
  obtain ⟨s', h', hs'⟩ := h s hs
  exact ⟨s', h', hs'.settle⟩

theorem ofFold (h : text.foldlM advance ⟨.outside, i⟩ = some ⟨.outside, o⟩) :
    Triple advance .fresh i text .fresh o := by
  rintro s rfl
  exact ⟨_, h, rfl⟩

/-- Texts joined by a separator, when each leaves the scan at the depth where it was. -/
theorem joinWith {separator : Text} {depth : Nat}
    (hs : Triple advance .settled depth separator .fresh depth) (texts : List Text)
    (h : ∀ text ∈ texts, Triple advance .fresh depth text .settled depth) :
    Triple advance .fresh depth (Text.joinWith separator texts) .settled depth := by
  induction texts with
  | nil => exact nil.settle
  | cons text rest ih =>
    have first := h text List.mem_cons_self
    have others := ih fun t ht => h t (List.mem_cons_of_mem text ht)
    cases rest with
    | nil => exact first
    | cons next rest => exact (first.append hs).append others

end Triple

section

variable {p q : Place} {i o : Nat} {text : Text}

theorem Moves.deeper (d : Nat) (h : Moves lex p i text q o) :
    Moves lex p (i + d) text q (o + d) := by
  intro s hs
  obtain ⟨s₀, hs₀, rfl⟩ := hs.exists_deeper
  obtain ⟨s', h', hs'⟩ := h s₀ hs₀
  exact ⟨s'.deeper d, run_deeper d h', hs'.deeper d⟩

theorem solidRun_deeper {s s' : State} (h : run lex s text = some s') :
    text.foldlM (solidStep lex) (s.deeper 1) = some (s'.deeper 1) := by
  induction text generalizing s with
  | nil =>
    cases h
    rfl
  | cons b text ih =>
    obtain ⟨next, stepped, ran⟩ := Option.bind_eq_some_iff.mp h
    rw [List.foldlM_cons, solidStep_deeper 0 stepped]
    exact ih ran

/-- What stands in parentheses belongs to one word. -/
theorem Moves.solid (h : Moves lex p i text q o) : Solid lex p (i + 1) text q (o + 1) := by
  intro s hs
  obtain ⟨s₀, hs₀, rfl⟩ := hs.exists_deeper
  obtain ⟨s', h', hs'⟩ := h s₀ hs₀
  exact ⟨s'.deeper 1, solidRun_deeper h', hs'.deeper 1⟩

theorem run_of_solidRun {s s' : State} (h : text.foldlM (solidStep lex) s = some s') :
    run lex s text = some s' := by
  induction text generalizing s with
  | nil => exact h
  | cons b text ih =>
    obtain ⟨next, stepped, ran⟩ := Option.bind_eq_some_iff.mp h
    rw [run_cons, step_of_solidStep stepped]
    exact ih ran

theorem Solid.moves (h : Solid lex p i text q o) : Moves lex p i text q o := by
  intro s hs
  obtain ⟨s', h', hs'⟩ := h s hs
  exact ⟨s', run_of_solidRun h', hs'⟩

end

/-- Whether a text may follow a closing quote: it does not start with a quote. -/
def Lexicon.detaches (lex : Lexicon) : Text → Bool
  | [] => false
  | b :: _ => b != 0x27 && b != lex.closing

theorem step_of_settled {mode : Mode} {depth : Nat} {b : UInt8}
    (hm : mode = .outside ∨ mode = .stringEnd ∨ mode = .identifierEnd) (quote : b ≠ 0x27)
    (closing : b ≠ lex.closing) : step lex ⟨mode, depth⟩ b = step lex ⟨.outside, depth⟩ b := by
  rcases hm with rfl | rfl | rfl
  · rfl
  · simp only [step, if_neg quote]
    simp [stepOutside]
  · simp only [step, if_neg closing]
    simp [stepOutside]

theorem isTop_of_settled {mode : Mode} {depth : Nat}
    (hm : mode = .outside ∨ mode = .stringEnd ∨ mode = .identifierEnd) :
    (⟨mode, depth⟩ : State).isTop = (⟨.outside, depth⟩ : State).isTop := by
  rcases hm with rfl | rfl | rfl <;> rfl

/-- Text between two expressions: what it does to a fresh scan it does to a settled one. -/
theorem Solid.ofFold_detached {i o : Nat} {text : Text} (detached : lex.detaches text = true)
    (h : text.foldlM (solidStep lex) ⟨.outside, i⟩ = some ⟨.outside, o⟩) :
    Solid lex .settled i text .fresh o := by
  rintro ⟨mode, depth⟩ ⟨hm, rfl⟩
  cases text with
  | nil => cases detached
  | cons b text =>
    rw [Lexicon.detaches, Bool.and_eq_true, bne_iff_ne, bne_iff_ne] at detached
    have first : solidStep lex ⟨mode, depth⟩ b = solidStep lex ⟨.outside, depth⟩ b := by
      rw [solidStep, solidStep, isTop_of_settled hm, step_of_settled hm detached.1 detached.2]
    refine ⟨_, ?_, rfl⟩
    rw [List.foldlM_cons, first, ← List.foldlM_cons]
    exact h

/-- A text that is scanned from outside to outside and leaves the parentheses as they were. -/
def Passes (lex : Lexicon) (text : Text) : Prop := Moves lex .fresh 0 text .settled 0

theorem Passes.solid {text : Text} (h : Passes lex text) (depth : Nat) :
    Solid lex .fresh (depth + 1) text .settled (depth + 1) := by
  have deep := Moves.deeper depth h
  rw [Nat.zero_add] at deep
  exact deep.solid

theorem Passes.sealed {text : Text} (h : Passes lex text) : Sealed lex text := by
  obtain ⟨⟨mode, depth⟩, hr, hm, rfl⟩ := h ⟨.outside, 0⟩ rfl
  refine ⟨mode, hr, ?_⟩
  rcases hm with rfl | rfl | rfl <;> rfl

/-! ## Text without lexical meaning -/

/-- A byte that no engine's lexer acts on: no quote, parenthesis, minus sign or slash. -/
def isInert (b : UInt8) : Bool :=
  !([0x22, 0x27, 0x28, 0x29, 0x2D, 0x2F, 0x5B, 0x5D, 0x60].contains b)

theorem step_inert (engine : Engine) {b : UInt8} (h : isInert b = true) (depth : Nat) :
    step engine.lexicon ⟨.outside, depth⟩ b = some ⟨.outside, depth⟩ := by
  simp only [isInert, List.contains_cons, List.contains_nil, Bool.or_false, Bool.not_eq_true',
    Bool.or_eq_false_iff, beq_eq_false_iff_ne] at h
  cases engine <;> simp [step, stepOutside, Engine.lexicon, h]

theorem moves_inert (engine : Engine) {text : Text} (h : text.all isInert = true)
    (depth : Nat) : Moves engine.lexicon .fresh depth text .fresh depth := by
  apply Triple.ofFold
  induction text with
  | nil => rfl
  | cons b text ih =>
    rw [List.all_cons, Bool.and_eq_true] at h
    rw [List.foldlM_cons, step_inert engine h.1]
    exact ih h.2

/-- An inert byte that ends no word. -/
def isPlain (b : UInt8) : Bool := isInert b && !isBreak b

theorem solidStep_plain (engine : Engine) {b : UInt8} (h : isPlain b = true) (depth : Nat) :
    solidStep engine.lexicon ⟨.outside, depth⟩ b = some ⟨.outside, depth⟩ := by
  rw [isPlain, Bool.and_eq_true, Bool.not_eq_true'] at h
  rw [solidStep_of_not_break h.2, step_inert engine h.1]

theorem solid_plain (engine : Engine) {text : Text} (h : text.all isPlain = true)
    (depth : Nat) : Solid engine.lexicon .fresh depth text .fresh depth := by
  apply Triple.ofFold
  induction text with
  | nil => rfl
  | cons b text ih =>
    rw [List.all_cons, Bool.and_eq_true] at h
    rw [List.foldlM_cons, solidStep_plain engine h.1]
    exact ih h.2

/-! ## Quoted text -/

/-- A byte of a string, as it is written, leaves the scan in the string. -/
theorem solidRun_stringByte (engine : Engine) (depth : Nat) (b : UInt8) :
    (engine.grammar.stringByte b).foldlM (solidStep engine.lexicon) ⟨.string, depth⟩
      = some ⟨.string, depth⟩ := by
  have same : engine.grammar.backslash = engine.lexicon.backslash := by cases engine <;> rfl
  have inside : ∀ c, solidStep engine.lexicon ⟨.string, depth⟩ c
      = step engine.lexicon ⟨.string, depth⟩ c := solidStep_of_not_top rfl
  rw [Grammar.stringByte, same]
  split_ifs with hq hb
  · rfl
  · rw [List.foldlM_cons, inside, step]
    simp only [hb.1, true_and, if_neg (by decide : ¬ (0x5C : UInt8) = 0x27), if_true]
    rfl
  · rw [List.foldlM_cons, inside, step]
    simp only [if_neg hq, if_neg hb]
    rfl

theorem solidRun_stringBytes (engine : Engine) (depth : Nat) (text : Text) :
    (text.flatMap engine.grammar.stringByte).foldlM (solidStep engine.lexicon) ⟨.string, depth⟩
      = some ⟨.string, depth⟩ := by
  induction text with
  | nil => rfl
  | cons b text ih =>
    rw [List.flatMap_cons, List.foldlM_append, solidRun_stringByte]
    exact ih

/-- **A string literal holds any bytes**: whatever the text, its literal is one word, scanned
from outside to just behind its closing quote. -/
theorem solid_string (engine : Engine) (text : Text) (depth : Nat) :
    Solid engine.lexicon .fresh depth (engine.grammar.string text) .settled depth := by
  rintro s rfl
  have opened : solidStep engine.lexicon ⟨.outside, depth⟩ 0x27 = some ⟨.string, depth⟩ := rfl
  refine ⟨⟨.stringEnd, depth⟩, ?_, .inr (.inl rfl), rfl⟩
  rw [Grammar.string_eq, List.foldlM_cons, opened]
  show List.foldlM _ _ _ = _
  rw [List.foldlM_append, solidRun_stringBytes]
  rfl

theorem solidRun_identifierByte (engine : Engine) (depth : Nat) (b : UInt8) :
    (engine.identifierByte b).foldlM (solidStep engine.lexicon) ⟨.identifier, depth⟩
      = some ⟨.identifier, depth⟩ := by
  have same : engine.lexicon.closing = engine.endQuote := by cases engine <;> rfl
  have plain : isBreak engine.endQuote = false := by cases engine <;> rfl
  have inside : ∀ c, solidStep engine.lexicon ⟨.identifier, depth⟩ c
      = step engine.lexicon ⟨.identifier, depth⟩ c := solidStep_of_not_top rfl
  rw [Engine.identifierByte]
  split_ifs with hb
  · simp [List.foldlM_cons, solidStep_of_not_break plain, step, same]
  · simp [List.foldlM_cons, inside, step, same, hb]

theorem solidRun_identifierBytes (engine : Engine) (depth : Nat) (name : Text) :
    (name.flatMap engine.identifierByte).foldlM (solidStep engine.lexicon) ⟨.identifier, depth⟩
      = some ⟨.identifier, depth⟩ := by
  induction name with
  | nil => rfl
  | cons b name ih =>
    rw [List.flatMap_cons, List.foldlM_append, solidRun_identifierByte]
    exact ih

/-- **A quoted identifier holds any bytes.** -/
theorem solid_identifier (engine : Engine) (name : Text) (depth : Nat) :
    Solid engine.lexicon .fresh depth (engine.grammar.identifier name) .settled depth := by
  rintro s rfl
  have opened : engine.grammar.opening.foldlM (solidStep engine.lexicon) ⟨.outside, depth⟩
      = some ⟨.identifier, depth⟩ := by cases engine <;> rfl
  have closed : [engine.endQuote].foldlM (solidStep engine.lexicon) ⟨.identifier, depth⟩
      = some ⟨.identifierEnd, depth⟩ := by cases engine <;> rfl
  refine ⟨⟨.identifierEnd, depth⟩, ?_, .inr (.inr rfl), rfl⟩
  rw [Engine.identifier_eq, List.foldlM_append, opened]
  show List.foldlM _ _ _ = _
  rw [List.foldlM_append, solidRun_identifierBytes]
  exact closed

theorem solid_segment (engine : Engine) (name : Text) (depth : Nat) :
    Solid engine.lexicon .fresh depth (engine.grammar.segment name) .settled depth := by
  rw [Grammar.segment]
  split_ifs
  · exact (solid_plain engine rfl depth).settle
  · exact solid_identifier engine name depth

/-- A dotted name of any bytes is one word. -/
theorem solid_path (engine : Engine) (name : Text) :
    Solid engine.lexicon .fresh 0 (engine.grammar.path name) .settled 0 := by
  have dot : Solid engine.lexicon .settled 0 "." .fresh 0 := by
    cases engine <;> exact .ofFold_detached rfl rfl
  refine Triple.joinWith dot _ fun text mem => ?_
  obtain ⟨segment, -, rfl⟩ := List.mem_map.mp mem
  exact solid_segment engine segment 0

end Scan

end DatePattern
