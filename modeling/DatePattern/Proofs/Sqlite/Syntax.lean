import DatePattern.Number.Decimal
import Mathlib.Tactic

/-!
# The expressions of SQLite

A reader of the part of SQLite's expression language in which date formats are written: string
and integer literals, function calls, `cast … as integer`, searched `case`, parentheses and the
binary operators with their precedences.

- `lex` cuts a text into lexemes. It keeps the lexeme that is being read (`Pending`) and takes
  one byte at a time;
- `parse` reads lexemes as a term. It keeps the constructs that are open (`Frame`), innermost
  first, and takes one lexeme at a time; an operator waits on the stack for its right operand;
- `Spells`: the lexemes of a piece of text. The byte behind it has to end its last lexeme;
- `Drives`: what a piece of text does to the parser, as a triple. Pieces put together drive it
  one after the other, and a piece that is an operand by itself is one wherever an operand is
  awaited (`Reads`).
-/

namespace DatePattern.Sqlite

/-! ## Lexemes -/

/-- A lexical unit. -/
inductive Lexeme where
  | word (text : Text)
  | number (n : Nat)
  | string (text : Text)
  | symbol (text : Text)
  deriving DecidableEq, Repr

/-- The lexeme that is being read. -/
inductive Pending where
  /-- None. -/
  | idle
  | word (read : Text)
  | number (read : Nat)
  /-- A string that is open. -/
  | string (read : Text)
  /-- A string behind a quote: it has ended, unless another quote follows. -/
  | closed (read : Text)
  | symbol (read : Text)
  deriving DecidableEq, Repr

/-- Whether a byte may stand in a word: a letter or an underscore. -/
def isLetter (b : UInt8) : Bool :=
  (0x41 ≤ b && b ≤ 0x5A) || (0x61 ≤ b && b ≤ 0x7A) || b == 0x5F

namespace Pending

/-- The lexeme with one more byte, if the byte belongs to it. -/
def extend : Pending → UInt8 → Option Pending
  | .idle, _ => none
  | .word read, b => if isLetter b || Decimal.isDigit b then some (.word (read ++ [b])) else none
  | .number read, b =>
    if Decimal.isDigit b then some (.number (read * 10 + Decimal.digitValue b)) else none
  | .string read, b => if b = 0x27 then some (.closed read) else some (.string (read ++ [b]))
  | .closed read, b => if b = 0x27 then some (.string (read ++ [0x27])) else none
  | .symbol [a], b =>
    if a = 0x7C then if b = 0x7C then some (.symbol [a, b]) else none
    else if a = 0x3C then if b = 0x3D ∨ b = 0x3E then some (.symbol [a, b]) else none
    else if a = 0x3E then if b = 0x3D then some (.symbol [a, b]) else none
    else none
  | .symbol _, _ => none

/-- The lexeme that starts with a byte; a blank starts none. -/
def start (b : UInt8) : Option Pending :=
  if b = 0x20 then some .idle
  else if b = 0x27 then some (.string [])
  else if Decimal.isDigit b then some (.number (Decimal.digitValue b))
  else if isLetter b then some (.word [b])
  else if ("(),|<>=+-*/%" : Text).contains b then some (.symbol [b])
  else none

/-- What has been read when nothing more belongs to it. An open string is nothing yet. -/
def finish : Pending → Option (List Lexeme)
  | .idle => some []
  | .word read => some [.word read]
  | .number read => some [.number read]
  | .string _ => none
  | .closed read => some [.string read]
  | .symbol read => some [.symbol read]

/-- Takes a byte: the lexemes that it completes, and what is being read then. -/
def step (p : Pending) (b : UInt8) : Option (List Lexeme × Pending) :=
  match p.extend b with
  | some q => some ([], q)
  | none => do return (← p.finish, ← start b)

end Pending

/-- Takes a text: the lexemes that it completes, and what is being read then. -/
def scan : Pending → Text → Option (List Lexeme × Pending)
  | p, [] => some ([], p)
  | p, b :: rest => do
    let (done, q) ← p.step b
    let (more, r) ← scan q rest
    return (done ++ more, r)

/-- The lexemes of a text. -/
def lex (text : Text) : Option (List Lexeme) := do
  let (done, p) ← scan .idle text
  return done ++ (← p.finish)

/-! ## Terms -/

/-- The binary operators. -/
inductive Binop where
  | concat
  | mul | div | mod
  | add | sub
  | lt | le | gt | ge
  | eq | ne
  | and
  deriving DecidableEq, Repr

namespace Binop

/-- How tightly an operator binds. -/
def strength : Binop → Nat
  | .concat => 6
  | .mul | .div | .mod => 5
  | .add | .sub => 4
  | .lt | .le | .gt | .ge => 3
  | .eq | .ne => 2
  | .and => 1

/-- The operators that are symbols. -/
def symbols : List (Text × Binop) :=
  [("||", .concat), ("*", .mul), ("/", .div), ("%", .mod), ("+", .add), ("-", .sub), ("<", .lt),
    ("<=", .le), (">", .gt), (">=", .ge), ("=", .eq), ("<>", .ne)]

/-- The operator that a lexeme stands for. -/
def ofLexeme? : Lexeme → Option Binop
  | .symbol text => symbols.lookup text
  | .word text => if text = "and" then some .and else none
  | _ => none

end Binop

/-- An expression. -/
inductive Term where
  | string (text : Text)
  | number (n : Nat)
  | call (name : Text) (args : List Term)
  /-- A value as an integer. -/
  | cast (operand : Term)
  | binary (op : Binop) (left right : Term)
  /-- A searched case: conditions and results, then the default. -/
  | case (branches : List (Term × Term)) (default : Option Term)

/-! ## The parser -/

/-- A construct that is open. -/
inductive Frame where
  /-- A parenthesis. -/
  | paren
  /-- The arguments of a call, with those already read. -/
  | args (name : Text) (done : List Term)
  /-- The operand of a cast. -/
  | cast
  /-- The right operand of an operator. -/
  | operand (op : Binop) (left : Term)
  /-- A condition of a case, behind the branches already read. -/
  | when (done : List (Term × Term))
  /-- A result of a case. -/
  | result (done : List (Term × Term)) (condition : Term)
  /-- The default of a case. -/
  | default (done : List (Term × Term))

/-- Where the parser stands. -/
inductive State where
  /-- Before an operand. -/
  | awaiting (frames : List Frame)
  /-- Behind an operand. -/
  | holding (frames : List Frame) (term : Term)
  /-- Behind the name of a function. -/
  | named (name : Text) (frames : List Frame)
  /-- Behind the word `case`. -/
  | casing (frames : List Frame)
  /-- Behind the word `as` of a cast. -/
  | casting (frames : List Frame) (term : Term)
  /-- Behind the type of a cast. -/
  | cast (frames : List Frame) (term : Term)

/-- Gives an operand to the operators that wait for it and bind at least as tightly as
`strength`, innermost first. -/
def settle (strength : Nat) : List Frame → Term → List Frame × Term
  | .operand op left :: frames, term =>
    if strength ≤ op.strength then settle strength frames (.binary op left term)
    else (.operand op left :: frames, term)
  | frames, term => (frames, term)

/-- Reads a lexeme that ends an operand, with no operator waiting for it any more. -/
def close : Lexeme → List Frame → Term → Option State
  | .symbol text, .paren :: frames, term => if text = ")" then some (.holding frames term) else none
  | .symbol text, .args name done :: frames, term =>
    if text = ")" then some (.holding frames (.call name (done ++ [term])))
    else if text = "," then some (.awaiting (.args name (done ++ [term]) :: frames))
    else none
  | .word text, .cast :: frames, term => if text = "as" then some (.casting frames term) else none
  | .word text, .when done :: frames, term =>
    if text = "then" then some (.awaiting (.result done term :: frames)) else none
  | .word text, .result done condition :: frames, term =>
    if text = "when" then some (.awaiting (.when (done ++ [(condition, term)]) :: frames))
    else if text = "else" then some (.awaiting (.default (done ++ [(condition, term)]) :: frames))
    else if text = "end" then some (.holding frames (.case (done ++ [(condition, term)]) none))
    else none
  | .word text, .default done :: frames, term =>
    if text = "end" then some (.holding frames (.case done (some term))) else none
  | _, _, _ => none

/-- Reads a lexeme. -/
def State.step : State → Lexeme → Option State
  | .awaiting frames, .string text => some (.holding frames (.string text))
  | .awaiting frames, .number n => some (.holding frames (.number n))
  | .awaiting frames, .symbol text => if text = "(" then some (.awaiting (.paren :: frames)) else none
  | .awaiting frames, .word text =>
    if text = "case" then some (.casing frames) else some (.named text frames)
  | .named name frames, .symbol text =>
    if text = "(" then
      some (.awaiting ((if name = "cast" then .cast else .args name []) :: frames))
    else none
  | .casing frames, .word text =>
    if text = "when" then some (.awaiting (.when [] :: frames)) else none
  | .holding frames term, lexeme =>
    match Binop.ofLexeme? lexeme with
    | some op =>
      let (frames, term) := settle op.strength frames term
      some (.awaiting (.operand op term :: frames))
    | none =>
      let (frames, term) := settle 0 frames term
      close lexeme frames term
  | .casting frames term, .word text =>
    if text = "integer" then some (.cast frames term) else none
  | .cast frames term, .symbol text =>
    if text = ")" then some (.holding frames (.cast term)) else none
  | _, _ => none

/-- Reads lexemes. -/
def run (state : State) (lexemes : List Lexeme) : Option State := lexemes.foldlM State.step state

/-- The term that lexemes stand for. -/
def parse (lexemes : List Lexeme) : Option Term :=
  match run (.awaiting []) lexemes with
  | some (.holding frames term) =>
    match settle 0 frames term with
    | ([], term) => some term
    | _ => none
  | _ => none

/-- The term that a text stands for. -/
def read (text : Text) : Option Term := (lex text).bind parse

/-! ## Lexemes piece by piece -/

theorem scan_cons (p : Pending) (b : UInt8) (rest : Text) :
    scan p (b :: rest) = (p.step b).bind fun first =>
      (scan first.2 rest).map fun others => (first.1 ++ others.1, others.2) := by
  rw [scan]
  cases p.step b with
  | none => rfl
  | some first =>
    obtain ⟨done, q⟩ := first
    show (scan q rest).bind _ = (scan q rest).map _
    cases scan q rest <;> rfl

theorem scan_append (p : Pending) (a b : Text) :
    scan p (a ++ b) = (scan p a).bind fun first =>
      (scan first.2 b).map fun others => (first.1 ++ others.1, others.2) := by
  induction a generalizing p with
  | nil =>
    show scan p b = (scan p b).map fun others => ([] ++ others.1, others.2)
    cases scan p b <;> rfl
  | cons x a ih =>
    rw [List.cons_append, scan_cons, scan_cons]
    cases p.step x with
    | none => rfl
    | some first =>
      rw [Option.bind_some, Option.bind_some, ih]
      cases scan first.2 a with
      | none => rfl
      | some second =>
        simp only [Option.bind_some, Option.map_some]
        cases scan second.2 b <;> simp

/-- A byte that does not belong to the lexeme being read ends it, and then starts afresh. -/
theorem scan_of_extend_eq_none {p : Pending} {b : UInt8} {done : List Lexeme}
    (ends : p.extend b = none) (finished : p.finish = some done) (rest : Text) :
    scan p (b :: rest)
      = (scan .idle (b :: rest)).map fun others => (done ++ others.1, others.2) := by
  have stepped : p.step b = (Pending.start b).map fun q => (done, q) := by
    rw [Pending.step, ends, finished]
    cases Pending.start b <;> rfl
  have fresh : Pending.idle.step b = (Pending.start b).map fun q => ([], q) := by
    show (Pending.start b).bind _ = _
    cases Pending.start b <;> rfl
  rw [scan_cons, scan_cons, stepped, fresh]
  cases Pending.start b with
  | none => rfl
  | some q =>
    show (scan q rest).map _ = ((scan q rest).map _).map _
    cases scan q rest <;> simp

/-- A text stands for lexemes, whatever text in front of it has been read; the byte that comes
behind it must be one that `next` allows. -/
def Spells (next : UInt8 → Bool) (text : Text) (lexemes : List Lexeme) : Prop :=
  ∃ done p last, scan .idle text = some (done, p) ∧ p.finish = some last ∧
    done ++ last = lexemes ∧ ∀ b, next b = true → p.extend b = none

/-- Any byte may come next. -/
def anything : UInt8 → Bool := fun _ => true

/-- The bytes that come behind an operand: a blank, a closing parenthesis, a comma. -/
def isDelimiter (b : UInt8) : Bool := b == 0x20 || b == 0x29 || b == 0x2C

theorem isDelimiter_iff (b : UInt8) :
    isDelimiter b = true ↔ b = 0x20 ∨ b = 0x29 ∨ b = 0x2C := by
  simp [isDelimiter, or_assoc]

namespace Spells

variable {next after : UInt8 → Bool} {a b text : Text} {ts us : List Lexeme}

theorem mono (h : Spells anything text ts) : Spells next text ts := by
  obtain ⟨done, p, last, hs, hf, hl, hn⟩ := h
  exact ⟨done, p, last, hs, hf, hl, fun b _ => hn b rfl⟩

theorem cons_append {c : UInt8} (ha : Spells next a ts) (hb : Spells after (c :: b) us)
    (hc : next c = true) : Spells after (a ++ c :: b) (ts ++ us) := by
  obtain ⟨done, p, last, hs, hf, rfl, hn⟩ := ha
  obtain ⟨done', q, last', hs', hf', rfl, hn'⟩ := hb
  refine ⟨done ++ (last ++ done'), q, last', ?_, hf', ?_, hn'⟩
  · rw [scan_append, hs, Option.bind_some, scan_of_extend_eq_none (hn c hc) hf, hs']
    rfl
  · simp only [List.append_assoc]

theorem append (ha : Spells anything a ts) (hb : Spells after b us) :
    Spells after (a ++ b) (ts ++ us) := by
  cases b with
  | nil =>
    obtain ⟨done, p, last, hs, hf, rfl, hn⟩ := hb
    cases hs
    cases hf
    show Spells after (a ++ []) (ts ++ [])
    rw [List.append_nil, List.append_nil]
    exact ha.mono
  | cons c b => exact ha.cons_append hb rfl

theorem lex_eq (h : Spells next text ts) : lex text = some ts := by
  obtain ⟨done, p, last, hs, hf, rfl, -⟩ := h
  rw [lex, hs]
  show (p.finish).bind _ = _
  rw [hf]
  rfl

end Spells

/-! ## Terms piece by piece -/

theorem run_append (state : State) (a b : List Lexeme) :
    run state (a ++ b) = (run state a).bind fun next => run next b :=
  List.foldlM_append ..

/-- Read in one state of the parser, a text takes it to another. -/
def Drives (next : UInt8 → Bool) (s : State) (text : Text) (s' : State) : Prop :=
  ∃ lexemes, Spells next text lexemes ∧ run s lexemes = some s'

/-- Whether a text starts with a delimiter. -/
def isDelimited : Text → Bool
  | [] => false
  | b :: _ => isDelimiter b

namespace Drives

variable {next : UInt8 → Bool} {s s' s'' : State} {a b : Text}

/-- Fixed text drives the parser by computation; no byte may continue its last lexeme. -/
theorem fixed {lexemes last : List Lexeme} {p : Pending}
    (scanned : scan .idle a = some (lexemes, p)) (ended : p.finish = some last)
    (whole : ∀ b, p.extend b = none) (ran : run s (lexemes ++ last) = some s') :
    Drives anything s a s' :=
  ⟨lexemes ++ last, ⟨lexemes, p, last, scanned, ended, rfl, fun b _ => whole b⟩, ran⟩

theorem append (ha : Drives anything s a s') (hb : Drives next s' b s'') :
    Drives next s (a ++ b) s'' := by
  obtain ⟨ts, ha, run_a⟩ := ha
  obtain ⟨us, hb, run_b⟩ := hb
  refine ⟨ts ++ us, ha.append hb, ?_⟩
  rw [run_append, run_a]
  exact run_b

/-- Behind an operand the text goes on with a delimiter. -/
theorem append_delimited (ha : Drives isDelimiter s a s') (hb : Drives next s' b s'')
    (delimited : isDelimited b = true) : Drives next s (a ++ b) s'' := by
  obtain ⟨ts, ha, run_a⟩ := ha
  obtain ⟨us, hb, run_b⟩ := hb
  cases b with
  | nil => cases delimited
  | cons c b =>
    refine ⟨ts ++ us, ha.cons_append hb delimited, ?_⟩
    rw [run_append, run_a]
    exact run_b

theorem mono (h : Drives anything s a s') : Drives next s a s' := by
  obtain ⟨ts, h, run⟩ := h
  exact ⟨ts, h.mono, run⟩

end Drives

/-- A text is an operand: where one is awaited it is read as the term. -/
def Reads (text : Text) (term : Term) : Prop :=
  ∀ frames, Drives isDelimiter (.awaiting frames) text (.holding frames term)

/-- An operand by itself is read as its term. -/
theorem Reads.read_eq {text : Text} {term : Term} (h : Reads text term) :
    read text = some term := by
  obtain ⟨lexemes, spells, ran⟩ := h []
  rw [read, spells.lex_eq, Option.bind_some, parse, ran]
  rfl

end DatePattern.Sqlite
