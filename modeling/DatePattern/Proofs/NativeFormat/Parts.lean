import DatePattern.Proofs.Dialect.Quoting
import DatePattern.Proofs.Pattern.Tokens
import DatePattern.Proofs.Plan.Stages

/-!
# The parts of a native format

A native fragment is written as one format string: its specifiers as they stand, its literal text
escaped. Whether that string still says what was planned is a question about the reader of the
string, and every date function reads in its own way. This module holds what the readers share:

- `FormatItem` and `Resolution.item`: what a reader gives back, and what it should give back for
  a part;
- `Resolution.Spelled`: a part of a native fragment is a specifier of the engine's table or one
  character to copy (`Fragment.exists_spelled`);
- `NativeFormat.write_runs`: where nothing stands between specifiers, a format is the texts of its
  parts one after the other, although literal text is escaped a whole run at a time.
-/

namespace DatePattern

/-! ## What a format asks for -/

/-- One thing that a format string asks for. -/
inductive FormatItem where
  /-- A specifier, and the suffix behind it where the date function knows suffixes. -/
  | field (specifier suffix : Text)
  /-- A text to copy. -/
  | copied (text : Text)
  deriving DecidableEq, Repr

/-- What a part of a native fragment asks for: a native part its own specifier, any other part
its text. -/
def Resolution.item (part : Resolution) : FormatItem :=
  if part.manner = .native then .field part.native [] else .copied part.token.text

namespace FormatItem

/-- A character to copy. -/
def char (c : Char) : FormatItem := .copied (Text.ofChar c)

/-- Reads a format by its characters; bytes that are not UTF-8 cannot be read. -/
def readWith (read : List Char → Option (List FormatItem)) (format : Text) :
    Option (List FormatItem) :=
  if format.isUtf8 then read format.chars else none

theorem readWith_ofChars (read : List Char → Option (List FormatItem)) (cs : List Char) :
    readWith read (Text.ofChars cs) = read cs := by
  have valid : (Text.ofChars cs).isUtf8 = true := (Text.isUtf8_iff _).mpr ⟨cs, rfl⟩
  rw [readWith, if_pos valid, Text.chars_ofChars]

end FormatItem

namespace Resolution

theorem item_native {part : Resolution} (native : part.manner = .native) :
    part.item = .field part.native [] := if_pos native

theorem item_literal {part : Resolution} (literal : part.manner = .literal) {c : Char}
    (text : part.token.text = Text.ofChar c) : part.item = .char c := by
  rw [item, literal, text]
  rfl

end Resolution

/-! ## The parts of a plan -/

/-- The specifiers in an engine's table. -/
def Engine.specifiers (engine : Engine) : List Text :=
  engine.table.filterMap fun entry =>
    match entry.2 with
    | .native specifier => some specifier
    | .emulated _ => none

theorem Engine.mem_specifiers {engine : Engine} {c : Char} {specifier : Text}
    (h : engine.capability? c = some (.native specifier)) : specifier ∈ engine.specifiers :=
  List.mem_filterMap.mpr ⟨_, mem_table_of_capability? h, rfl⟩

/-- A part as native fragments have them: a specifier of the engine's table, or one character to
copy. -/
def Resolution.Spelled (engine : Engine) (part : Resolution) : Prop :=
  (part.manner = .native ∧ part.native ∈ engine.specifiers) ∨
  (part.manner = .literal ∧ ∃ c, part.token.text = Text.ofChar c)

/-- The text of a token is one character. -/
theorem Token.exists_text (pos : Nat) (cs : List Char) :
    ∀ token ∈ ofCharsFrom pos cs, ∃ c, token.text = Text.ofChar c := by
  induction cs using reading_induction generalizing pos with
  | nil => exact List.forall_mem_nil _
  | trailing => exact List.forall_mem_singleton.mpr ⟨'\\', rfl⟩
  | escaped c rest ih =>
    rw [ofCharsFrom_escaped]
    exact List.forall_mem_cons.mpr ⟨⟨c, rfl⟩, ih _⟩
  | plain c rest hc ih =>
    rw [ofCharsFrom_plain pos hc]
    exact List.forall_mem_cons.mpr ⟨⟨c, rfl⟩, ih _⟩

theorem Resolution.spelled_decided {engine : Engine} {token : Token}
    (one : ∃ c, token.text = Text.ofChar c) (h : (decided engine token).manner ≠ .emulated) :
    (decided engine token).Spelled engine := by
  unfold decided at *
  cases literal : token.literal with
  | true => exact .inr ⟨rfl, one⟩
  | false =>
    rw [literal] at h
    cases found : engine.capability? token.char with
    | none => exact .inr ⟨rfl, one⟩
    | some capability =>
      rw [found] at h
      cases capability with
      | native specifier => exact .inl ⟨rfl, Engine.mem_specifiers found⟩
      | emulated recipe => exact absurd rfl h

/-- An accepted format has a plan, and every part of its native fragments is spelled for the
engine. -/
theorem Fragment.exists_spelled (engine : Engine) {format : Text}
    (accepted : Pattern.validate format = .ok ()) :
    ∃ fragments, plan engine.kind format = .ok fragments ∧
      ∀ fragment ∈ fragments, fragment.emulated = false →
        ∀ part ∈ fragment.parts, part.Spelled engine := by
  have planned := plan_eq engine format
  rw [accepted] at planned
  refine ⟨_, planned, ?_⟩
  intro fragment mem native part inside
  rcases groupOf_coalesce _ fragment mem with ⟨emulated, -⟩ | ⟨-, parts⟩
  · rw [native] at emulated
    cases emulated
  · obtain ⟨decided, manner⟩ := parts part inside
    obtain ⟨token, listed, rfl⟩ := List.mem_map.mp decided
    exact Resolution.spelled_decided (Token.exists_text _ _ token listed) manner

/-! ## Formats without joints -/

namespace NativeFormat

/-- A part as it stands in a format. -/
def partText (kind : Kind) (part : Resolution) : Text :=
  if part.manner = .native then part.native else escape kind part.token.text

theorem partText_native {part : Resolution} (native : part.manner = .native) (kind : Kind) :
    partText kind part = part.native := if_pos native

theorem partText_literal {part : Resolution} (literal : part.manner = .literal) (kind : Kind) :
    partText kind part = escape kind part.token.text := by
  rw [partText, literal, if_neg Manner.noConfusion]

/-- Only PostgreSQL puts something between specifiers. On every other engine the runs leave no
trace, as long as text is escaped piece by piece. -/
theorem write_runs {kind : Kind} (joins : kind ≠ Engine.postgres.kind) {parts : List Resolution}
    (piecewise : ∀ part ∈ parts, part.manner ≠ .native → ∀ text,
      escape kind (part.token.text ++ text) = escape kind part.token.text ++ escape kind text)
    (previous : Text) :
    write kind previous (runs parts) = parts.flatMap (partText kind) := by
  induction parts generalizing previous with
  | nil => rfl
  | cons part rest ih =>
    obtain ⟨first, others⟩ := List.forall_mem_cons.mp piecewise
    have ih := ih others
    rw [runs, List.flatMap_cons, partText]
    by_cases native : part.manner = .native
    · rw [if_pos native, if_pos native, write, ih]
      simp [joins]
    · rw [if_neg native, if_neg native]
      split
      · next text more front =>
        -- the run behind goes on with `text`, which is escaped by itself as well
        have tail : escape kind text ++ write kind [] more = rest.flatMap (partText kind) := by
          rw [← ih [], front, write]
        rw [write, first native, List.append_assoc, tail]
      · rw [write, ih]

end NativeFormat

end DatePattern
