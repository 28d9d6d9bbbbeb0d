import DatePattern.Proofs.NativeFormat.Percent
import DatePattern.Proofs.Plan.Meaning
import DatePattern.Proofs.Sqlite.Recipes

/-!
# Compilation for SQLite preserves meaning

A compiled format is a concatenation of calls of `strftime` and of recipes. Evaluated on the
literal of a UTC moment it gives the text that the reference renders, but for one gap: the length of
a month is found over the first of the next month, which the calendar of SQLite does not have behind
December 9999. There the length is null, and with it all that it is concatenated with. This is shown
from the parts of a format outwards:

- `expand?_written`: the format of a native fragment expands to the reference rendering of its
  parts, literal text coming out as it went in;
- `yields_fragment`: so does every fragment, native or emulated, unless its token is lost;
- `yields_concat`, `yields_emit`: what is written for several fragments yields their texts one
  after the other, so that nothing is lost where two of them meet, and null if one of them is;
- `concatenated_tokens`: so one lost token makes the whole null, and without one it is the rendering.
-/

namespace DatePattern.Sqlite

/-! ## Answers -/

/-- Texts one after the other; null if one of them is. -/
def concatenated : List (Option Text) → Option Text
  | [] => some []
  | first :: rest => do return (← first) ++ (← concatenated rest)

theorem concatenated_some (texts : List Text) :
    concatenated (texts.map some) = some texts.flatten := by
  induction texts with
  | nil => rfl
  | cons text rest ih =>
    rw [List.map_cons, concatenated, ih]
    rfl

theorem concatenated_singleton (answer : Option Text) : concatenated [answer] = answer := by
  cases answer with
  | none => rfl
  | some text => exact congrArg some (List.append_nil text)

theorem concatenated_cons (first : Option Text) (rest : List (Option Text)) :
    concatenated (first :: rest) = concatenated [first, concatenated rest] := by
  rw [concatenated, concatenated, concatenated_singleton]

theorem concatenated_append (a b : List (Option Text)) :
    concatenated (a ++ b) = concatenated [concatenated a, concatenated b] := by
  induction a with
  | nil =>
    rw [List.nil_append]
    cases concatenated b <;> simp [concatenated]
  | cons first rest ih =>
    rw [List.cons_append, concatenated_cons, ih, concatenated_cons first rest]
    cases first with
    | none => rfl
    | some text =>
      cases concatenated rest with
      | none => rfl
      | some front =>
        cases concatenated b with
        | none => rfl
        | some back => simp [concatenated]

theorem concatenated_flatMap {α : Type} (xs : List α) (f : α → List (Option Text)) :
    concatenated (xs.flatMap f) = concatenated (xs.map fun x => concatenated (f x)) := by
  induction xs with
  | nil => rfl
  | cons x rest ih =>
    rw [List.flatMap_cons, concatenated_append, ih, List.map_cons, ← concatenated_cons]

/-- What a token of a format comes to: its rendering, or null where it is lost. -/
def tokenAnswer (t : Moment) (token : Token) : Option Text :=
  if token.literal = false ∧ IsLost t token.char then none else some (Reference.token t token)

/-- One lost token makes the whole null. -/
theorem concatenated_tokens (t : Moment) (tokens : List Token) :
    concatenated (tokens.map (tokenAnswer t)) =
      if ∃ token ∈ tokens, token.literal = false ∧ IsLost t token.char then none
      else some (tokens.flatMap (Reference.token t)) := by
  induction tokens with
  | nil => simp [concatenated]
  | cons token rest ih =>
    rw [List.map_cons, concatenated, ih, tokenAnswer]
    simp only [List.mem_cons, exists_eq_or_imp]
    by_cases lost : token.literal = false ∧ IsLost t token.char
    · rw [if_pos lost, if_pos (Or.inl lost)]
      rfl
    · by_cases more : ∃ token ∈ rest, token.literal = false ∧ IsLost t token.char
      · rw [if_neg lost, if_pos more, if_pos (Or.inr more)]
        rfl
      · rw [if_neg lost, if_neg more, if_neg (not_or.mpr ⟨lost, more⟩), List.flatMap_cons]
        rfl

/-! ## Native formats -/

/-- A part as it stands in a format of `strftime`. -/
def written (part : Resolution) : Text :=
  if part.manner = .native then part.native else part.token.text.replaceByte 0x25 [0x25, 0x25]

/-- Joining neighbouring literal text does not show in the format. -/
theorem ofParts_eq (parts : List Resolution) :
    NativeFormat.ofParts Engine.sqlite.kind parts = parts.flatMap written :=
  NativeFormat.Percent.ofParts_eq (.inr rfl) parts

namespace Instant

theorem expand?_cons (i : Instant) {b : UInt8} (h : b ≠ 0x25) (rest : Text) :
    i.expand? (b :: rest) = (i.expand? rest).map (b :: ·) := by
  cases rest with
  | nil =>
    show (if b = 0x25 then none else some [b]) = some [b]
    rw [if_neg h]
  | cons c rest =>
    rw [expand?, if_neg h]
    cases i.expand? (c :: rest) <;> rfl

theorem expand?_percent (i : Instant) (b : UInt8) (rest : Text) :
    i.expand? ([0x25, b] ++ rest)
      = (i.specifier? b).bind fun text => (i.expand? rest).map (text ++ ·) := by
  show i.expand? (0x25 :: b :: rest) = _
  rw [expand?, if_pos rfl]
  cases i.specifier? b with
  | none => rfl
  | some text => cases i.expand? rest <;> rfl

/-- Literal text with its percent signs doubled expands to itself. -/
theorem expand?_literal (i : Instant) (text rest : Text) :
    i.expand? (text.replaceByte 0x25 [0x25, 0x25] ++ rest)
      = (i.expand? rest).map (text ++ ·) := by
  induction text with
  | nil =>
    show i.expand? rest = (i.expand? rest).map fun more => more
    rw [Option.map_id']
  | cons b text ih =>
    rw [Text.replaceByte_cons, List.append_assoc]
    by_cases percent : b = 0x25
    · have sign : i.specifier? 0x25 = some [0x25] := rfl
      rw [if_pos percent, expand?_percent, ih, sign, percent]
      cases i.expand? rest <;> rfl
    · rw [if_neg percent, List.singleton_append, expand?_cons i percent, ih]
      cases i.expand? rest <;> rfl

end Instant

/-! ## Parts and fragments -/

/-- What has no recipe is not lost. -/
theorem tokenAnswer_of_native (t : Moment) {token : Token}
    (h : (Resolution.decided .sqlite token).manner ≠ .emulated) :
    tokenAnswer t token = some (Reference.token t token) := by
  refine if_neg ?_
  rintro ⟨plain, char, -⟩
  refine h ?_
  rw [Resolution.decided, plain, char]
  rfl

section Moment

variable {t : Moment} (low : 1000 ≤ t.date.year) (high : t.date.year ≤ 9999)
  (utc : t.zone = .utc)
include low high utc

/-- A part without a recipe expands to what the reference renders for its token. -/
theorem expand?_written {token : Token}
    (h : (Resolution.decided .sqlite token).manner ≠ .emulated) (rest : Text) :
    (Instant.ofMoment t).expand? (written (.decided .sqlite token) ++ rest)
      = ((Instant.ofMoment t).expand? rest).map (Reference.token t token ++ ·) := by
  unfold Resolution.decided Reference.token at *
  by_cases literal : token.literal
  · rw [if_pos literal, if_pos literal]
    exact Instant.expand?_literal _ _ _
  · rw [if_neg literal] at h
    rw [if_neg literal, if_neg literal]
    cases capability : Engine.sqlite.capability? token.char with
    | none =>
      -- what the table lacks the reference copies
      have copied := (Engine.capability?_eq_none_iff .sqlite t token.char).mp capability
      rw [copied]
      exact Instant.expand?_literal _ _ _
    | some known =>
      obtain ⟨text, reference, agrees⟩ :=
        agrees_table low high utc _ (Engine.mem_table_of_capability? capability)
      cases known with
      | emulated recipe => exact absurd (congrArg Resolution.manner
          (congrArg (Resolution.ofCapability? token) capability)) h
      | native specifier =>
        obtain ⟨-, b, spelled, expanded⟩ := agrees
        rw [show Reference.char? t token.char = some text from reference, Option.getD_some]
        show (Instant.ofMoment t).expand? (specifier ++ rest) = _
        rw [spelled, Instant.expand?_percent, expanded, Option.bind_some]

theorem expand?_parts {parts : List Resolution}
    (h : ∀ part ∈ parts, ∃ token, part = .decided .sqlite token ∧ part.manner ≠ .emulated) :
    (Instant.ofMoment t).expand? (parts.flatMap written)
      = some (parts.flatMap fun part => Reference.token t part.token) := by
  induction parts with
  | nil => rfl
  | cons part rest ih =>
    obtain ⟨⟨token, rfl, native⟩, others⟩ := List.forall_mem_cons.mp h
    rw [List.flatMap_cons, expand?_written low high utc native, ih others, List.flatMap_cons,
      Resolution.token_decided, Option.map_some]

/-- A call of `strftime` yields what the reference renders for the parts of its format. -/
theorem yields_native {parts : List Resolution}
    (h : ∀ part ∈ parts, ∃ token, part = .decided .sqlite token ∧ part.manner ≠ .emulated) :
    Yields (Fragment.sql Engine.sqlite.grammar (Sql.timestamp Engine.sqlite.grammar t)
      ⟨false, parts⟩) (concatenated (parts.map fun part => tokenAnswer t part.token)) := by
  have answers : parts.map (fun part => tokenAnswer t part.token)
      = (parts.map fun part => Reference.token t part.token).map some := by
    rw [List.map_map]
    refine List.map_congr_left fun part mem => ?_
    obtain ⟨token, rfl, native⟩ := h part mem
    rw [Resolution.token_decided, tokenAnswer_of_native t native, Function.comp_apply,
      Resolution.token_decided]
  have reads := reads_call drives_strftime (reads_string (parts.flatMap written))
    (.cons (reads_timestamp t) .nil)
  have evaluated := eval_literal low high (parts.flatMap written)
  rw [expand?_parts low high utc h] at evaluated
  rw [answers, concatenated_some, ← List.flatMap_def]
  refine ⟨_, _, ?_, evaluated, rfl⟩
  show Reads ("strftime(" ++ Engine.sqlite.grammar.string
    (NativeFormat.ofParts Engine.sqlite.kind parts) ++ ", "
      ++ Sql.timestamp Engine.sqlite.grammar t ++ ")") _
  rw [ofParts_eq, List.append_assoc ("strftime(" : Text), List.append_assoc ("strftime(" : Text)]
  exact reads

/-- A recipe of the table yields what the reference renders for its token, unless it is lost. -/
theorem yields_emulated {token : Token}
    (h : (Resolution.decided .sqlite token).manner = .emulated) :
    Yields (Fragment.sql Engine.sqlite.grammar (Sql.timestamp Engine.sqlite.grammar t)
      ⟨true, [.decided .sqlite token]⟩) (tokenAnswer t token) := by
  obtain ⟨plain, recipe, found, listed⟩ := Resolution.recipe?_decided h
  obtain ⟨text, reference, agrees⟩ :=
    agrees_table low high utc _ (Engine.mem_table_of_capability? listed)
  have rendered : Reference.token t token = text := by
    rw [Reference.token, plain, show Reference.char? t token.char = some text from reference]
    rfl
  have answers : tokenAnswer t token = answer t token.char text := by
    rw [tokenAnswer, answer, rendered]
    simp only [plain, true_and]
  simp only [Fragment.sql, if_true, List.head?_cons, Option.bind_some, found]
  rw [answers]
  exact agrees

/-- Every fragment of a plan yields what its parts come to. -/
theorem yields_fragment {tokens : List Token} {fragment : Fragment}
    (h : fragment.GroupOf (tokens.map (Resolution.decided .sqlite))) :
    Yields (fragment.sql Engine.sqlite.grammar (Sql.timestamp Engine.sqlite.grammar t))
      (concatenated (fragment.parts.map fun part => tokenAnswer t part.token)) := by
  obtain ⟨emulated, parts⟩ := fragment
  rcases h with ⟨rfl, r, mem, manner, rfl⟩ | ⟨rfl, native⟩
  · obtain ⟨token, -, rfl⟩ := List.mem_map.mp mem
    rw [List.map_singleton, Resolution.token_decided, concatenated_singleton]
    exact yields_emulated low high utc manner
  · refine yields_native low high utc fun part mem => ?_
    obtain ⟨listed, manner⟩ := native part mem
    obtain ⟨token, -, rfl⟩ := List.mem_map.mp listed
    exact ⟨token, rfl, manner⟩

end Moment

/-! ## Concatenation -/

/-- A term whose value reads as a text, or is null for no text. -/
def Shows (term : Term) (answer : Option Text) : Prop :=
  ∃ value, term.eval = some value ∧ value.text? = answer

theorem Yields.evaluate_eq {sql : Text} {answer : Option Text} (h : Yields sql answer) :
    ∃ value, evaluate sql = some value ∧ value.text? = answer := by
  obtain ⟨term, value, reads, evaluated, shown⟩ := h
  refine ⟨value, ?_, shown⟩
  rw [evaluate, reads.read_eq, Option.bind_some, evaluated]

theorem shows_concat {x y : Term} {a b : Option Text} (hx : Shows x a) (hy : Shows y b) :
    Shows (.binary .concat x y) (concatenated [a, b]) := by
  obtain ⟨v, left, rfl⟩ := hx
  obtain ⟨w, right, rfl⟩ := hy
  have evaluated : (Term.binary .concat x y).eval = Binop.concat.apply v w := by
    rw [Term.eval, left, right]
    rfl
  cases hv : v.text? <;> cases hw : w.text? <;>
    exact ⟨_, by rw [evaluated, Binop.apply, hv, hw], by simp [concatenated, Value.text?]⟩

/-- A chain of concatenations, nested to the left, shows the texts one after the other. -/
theorem shows_chain {terms : List Term} {answers : List (Option Text)}
    (h : List.Forall₂ Shows terms answers) {x : Term} {a : Option Text} (hx : Shows x a) :
    Shows (terms.foldl (.binary .concat) x) (concatenated (a :: answers)) := by
  induction h generalizing x a with
  | nil =>
    rw [concatenated_singleton]
    exact hx
  | @cons y b _ answers hy _ ih =>
    have joined : concatenated (a :: b :: answers)
        = concatenated (concatenated [a, b] :: answers) := by
      rw [concatenated_cons (concatenated [a, b]), ← concatenated_append]
      rfl
    rw [joined]
    exact ih (shows_concat hx hy)

/-- Texts that yield are read as terms that show the same. -/
theorem exists_terms {sqls : List Text} {answers : List (Option Text)}
    (h : List.Forall₂ Yields sqls answers) :
    ∃ terms, List.Forall₂ Reads sqls terms ∧ List.Forall₂ Shows terms answers := by
  induction h with
  | nil => exact ⟨[], .nil, .nil⟩
  | cons first _ ih =>
    obtain ⟨term, value, reads, evaluated⟩ := first
    obtain ⟨terms, others, shown⟩ := ih
    exact ⟨term :: terms, .cons reads others, .cons ⟨value, evaluated⟩ shown⟩

theorem drives_concat (frames : List Frame) (x : Term) :
    Drives anything (.holding frames x) " || " (.awaiting (.operand .concat
      (settle Binop.concat.strength frames x).2 :: (settle Binop.concat.strength frames x).1)) :=
  .fixed rfl rfl (fun _ => rfl) rfl

theorem yields_concat {first : Text} {sqls : List Text} {a : Option Text}
    {answers : List (Option Text)} (head : Yields first a) (h : List.Forall₂ Yields sqls answers) :
    Yields (Sql.concat Engine.sqlite.kind (first :: sqls)) (concatenated (a :: answers)) := by
  obtain ⟨x, value, reads, evaluated⟩ := head
  obtain ⟨terms, others, shown⟩ := exists_terms h
  obtain ⟨whole, evaluatedWhole⟩ := shows_chain shown ⟨value, evaluated⟩
  exact ⟨_, whole, reads_chain drives_concat rfl reads others, evaluatedWhole⟩

/-- None, one or several fragments yield their answers in order. -/
theorem yields_emit {subject : Text} {fragments : List Fragment} {answer : Fragment → Option Text}
    (h : ∀ fragment ∈ fragments,
      Yields (fragment.sql Engine.sqlite.grammar subject) (answer fragment)) :
    Yields (emit Engine.sqlite.grammar subject fragments)
      (concatenated (fragments.map answer)) := by
  match fragments, h with
  | [], _ => exact ⟨_, _, reads_string [], rfl, rfl⟩
  | [single], h =>
    rw [List.map_singleton, concatenated_singleton]
    exact h single List.mem_cons_self
  | first :: second :: rest, h =>
    obtain ⟨head, tail⟩ := List.forall_mem_cons.mp h
    have others : List.Forall₂ Yields
        ((second :: rest).map (Fragment.sql Engine.sqlite.grammar subject))
        ((second :: rest).map answer) := by
      rw [List.forall₂_map_left_iff, List.forall₂_map_right_iff, List.forall₂_same]
      exact tail
    exact yields_concat head others

end DatePattern.Sqlite

namespace DatePattern

/-- A format asks for what lies beyond the calendar of SQLite: it has an active `t`, and the month is
December 9999. -/
def Sqlite.AsksBeyond (t : Moment) (format : Text) : Prop :=
  t.date.year = 9999 ∧ t.date.month = 12 ∧
    ∃ token ∈ Token.tokenize format, token.literal = false ∧ token.char = 't'

/-- **Compilation for SQLite preserves meaning but at the end of its calendar.** An accepted format
compiles for the literal of a UTC moment of the years 1000 to 9999, and SQLite has a value for the
SQL. It is exactly the text that the reference renders, unless the format asks for the length of the
last month of the calendar; then the value is null. -/
theorem sqlite_evaluates_to_render_iff (t : Moment) (utc : t.zone = .utc)
    (low : 1000 ≤ t.date.year) (high : t.date.year ≤ 9999) (format : Text)
    (accepted : Pattern.validate format = .ok ()) :
    ∃ sql text value, compile Engine.sqlite.grammar (.timestamp t) format = .ok sql ∧
      Reference.render t format = .ok text ∧ Sqlite.evaluate sql = some value ∧
      (value.text? = some text ↔ ¬Sqlite.AsksBeyond t format) ∧
      (Sqlite.AsksBeyond t format → value = .null) := by
  have yields := Sqlite.yields_emit fun fragment mem => Sqlite.yields_fragment low high utc
    (Fragment.groupOf_coalesce ((Token.tokenize format).map (Resolution.decided .sqlite))
      fragment mem)
  -- the parts of the fragments are the tokens of the format, each exactly once
  rw [← Sqlite.concatenated_flatMap, ← List.map_flatMap, Fragment.parts_coalesce, List.map_map]
    at yields
  have tokens : (fun part : Resolution => Sqlite.tokenAnswer t part.token) ∘
      Resolution.decided .sqlite = Sqlite.tokenAnswer t := by
    funext token
    rw [Function.comp_apply, Resolution.token_decided]
  have lost : (∃ token ∈ Token.tokenize format, token.literal = false ∧
      Sqlite.IsLost t token.char) ↔ Sqlite.AsksBeyond t format := by
    constructor
    · rintro ⟨token, mem, plain, char, year, month⟩
      exact ⟨year, month, token, mem, plain, char⟩
    · rintro ⟨year, month, token, mem, plain, char⟩
      exact ⟨token, mem, plain, char, year, month⟩
  rw [tokens, Sqlite.concatenated_tokens] at yields
  obtain ⟨value, evaluated, shown⟩ := yields.evaluate_eq
  refine ⟨_, (Token.tokenize format).flatMap (Reference.token t), value, ?_, ?_, evaluated, ?_, ?_⟩
  · show compileText Engine.sqlite.grammar (Sql.timestamp Engine.sqlite.grammar t) format = _
    have kind : Engine.sqlite.grammar.kind = Engine.sqlite.kind := rfl
    rw [compileText_eq kind, accepted]
  · rw [render_eq, accepted]
  · by_cases beyond : Sqlite.AsksBeyond t format
    · rw [shown, if_pos (lost.mpr beyond)]
      simp [beyond]
    · rw [shown, if_neg (mt lost.mp beyond)]
      simp [beyond]
  · intro beyond
    rw [if_pos (lost.mpr beyond)] at shown
    cases value with
    | null => rfl
    | integer n => cases shown
    | text text => cases shown

/-- Half past midnight on a Sunday that still belongs to the last week of the year before. -/
theorem sqlite_evaluates_to_render_iff_example :
    let t : Moment := .ofClock 2021 1 3 0 30 0 0 0
    let format : Text := "o-\\WW, D 'g:i a' 100% \\\\ t"
    t.zone = .utc ∧ 1000 ≤ t.date.year ∧ t.date.year ≤ 9999 ∧ Pattern.validate format = .ok () ∧
    ∃ sql text value, compile Engine.sqlite.grammar (.timestamp t) format = .ok sql ∧
      Reference.render t format = .ok text ∧ Sqlite.evaluate sql = some value ∧
      value.text? = some text := by
  intro t format
  have utc : t.zone = .utc := rfl
  have low : 1000 ≤ t.date.year := by decide +kernel
  have high : t.date.year ≤ 9999 := by decide +kernel
  have accepted : Pattern.validate format = .ok () := by decide +kernel
  have inside : t.date.year ≠ 9999 := by decide +kernel
  obtain ⟨sql, text, value, compiled, rendered, evaluated, same, -⟩ :=
    sqlite_evaluates_to_render_iff t utc low high format accepted
  exact ⟨utc, low, high, accepted, sql, text, value, compiled, rendered, evaluated,
    same.mpr fun beyond => inside beyond.1⟩

/-- The length of December 9999 is 31 days, and null in SQLite. -/
theorem sqlite_last_month_null :
    let t : Moment := .ofClock 9999 12 15 0 0 0 0 0
    ∃ sql, compile Engine.sqlite.grammar (.timestamp t) "t" = .ok sql ∧
      Reference.render t "t" = .ok "31" ∧ Sqlite.evaluate sql = some .null := by
  refine ⟨_, rfl, ?_, ?_⟩
  · decide +kernel
  · decide +kernel

end DatePattern
