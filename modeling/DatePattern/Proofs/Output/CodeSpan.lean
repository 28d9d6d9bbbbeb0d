import DatePattern.Cli.Run
import DatePattern.Proofs.Output.Explained
import DatePattern.Proofs.Plan.Bytes
import Mathlib.Data.List.SplitBy

/-!
# Code spans

In markdown a code span is opened by a run of backticks and closed by the next run of the same
length, so a text is safe between two single backticks as long as it holds no run of exactly one.
The list of fragments in an explanation puts each fragment between single backticks, and MySQL
quotes names with single backticks.

- `CodeSpan.read?`: reads a code span off the front of a text;
- `CodeSpan.read?_single`: what is read from a text between single backticks;
- `Text.OneLine`: texts without line feeds, closed under putting one behind the other;
- `Output.linesUnder_fragments`: the document has a line for each fragment under its heading;
- `Cli.Job.fragments_intact_iff`: which of these lines show their fragment.
-/

namespace DatePattern

/-! ## Reading a span -/

namespace CodeSpan

/-- The longest runs of backticks and of other bytes. -/
def runs (text : Text) : List Text := text.splitBy fun a b => (a == 0x60) == (b == 0x60)

/-- What a span shows of the text inside: a blank at both ends is dropped, unless there are only
blanks. -/
def content (inside : Text) : Text :=
  if inside.head? = some 0x20 ∧ inside.getLast? = some 0x20 ∧ inside.any (· != 0x20) = true then
    (inside.drop 1).dropLast
  else inside

/-- Reads a code span off the front of a text: what it shows, and what is behind it. -/
def read? (text : Text) : Option (Text × Text) :=
  match runs text with
  | [] => none
  | opening :: behind =>
    if opening.head? = some 0x60 ∧ behind.contains opening = true then
      some (content (behind.takeWhile (· != opening)).flatten,
        ((behind.dropWhile (· != opening)).drop 1).flatten)
    else none

/-- A backtick with no other one beside it. -/
def HasLoneBacktick (text : Text) : Prop :=
  ∃ before after, text = before ++ 0x60 :: after ∧
    before.getLast? ≠ some 0x60 ∧ after.head? ≠ some 0x60

theorem runs_append {a b : Text}
    (apart : ∀ x ∈ a.getLast?, ∀ y ∈ b.head?, ((x == 0x60) == (y == 0x60)) = false) :
    runs (a ++ b) = runs a ++ runs b := List.splitBy_append apart

/-- Single backticks around other text are runs of their own. -/
theorem runs_single {before after : Text} (front : before.getLast? ≠ some 0x60)
    (back : after.head? ≠ some 0x60) :
    runs (before ++ 0x60 :: after) = runs before ++ [0x60] :: runs after := by
  have other {x : UInt8} (h : x ≠ 0x60) : (x == 0x60) = false := beq_eq_false_iff_ne.mpr h
  have behind : runs (0x60 :: after) = [0x60] :: runs after := by
    refine runs_append (a := [0x60]) fun x hx y hy => ?_
    cases hx
    rw [other fun same => back (same ▸ hy)]
    rfl
  rw [← behind]
  refine runs_append fun x hx y hy => ?_
  cases hy
  rw [other fun same => front (same ▸ hx)]
  rfl

/-- The runs that are one backtick are the lone backticks. -/
theorem single_mem_runs_iff (text : Text) : [0x60] ∈ runs text ↔ HasLoneBacktick text := by
  constructor
  · intro listed
    obtain ⟨front, behind, split⟩ := List.append_of_mem listed
    have whole : (runs text).flatten = text := List.flatten_splitBy _ text
    have chain := List.isChain_getLast_head_splitBy (fun a b => (a == 0x60) == (b == 0x60)) text
    change (runs text).IsChain _ at chain
    rw [split, List.isChain_append, List.isChain_cons] at chain
    obtain ⟨-, ⟨next, -⟩, previous⟩ := chain
    refine ⟨front.flatten, behind.flatten, ?_, ?_, ?_⟩
    · rw [← whole, split]
      simp
    · rcases List.eq_nil_or_concat front with rfl | ⟨init, last, rfl⟩
      · decide
      · obtain ⟨some, _, apart⟩ := previous last (by simp) [0x60] rfl
        rw [List.concat_eq_append, List.flatten_concat, List.getLast?_append_of_ne_nil _ some,
          List.getLast?_eq_some_getLast some]
        intro same
        rw [Option.some.inj same] at apart
        simp at apart
    · cases behind with
      | nil => decide
      | cons first rest =>
        obtain ⟨_, some, apart⟩ := next first rfl
        rw [List.flatten_cons, List.head?_append_of_ne_nil _ some, List.head?_eq_some_head some]
        intro same
        rw [Option.some.inj same] at apart
        simp at apart
  · rintro ⟨before, after, rfl, front, back⟩
    rw [runs_single front back]
    exact List.mem_append_right _ List.mem_cons_self

theorem ends_of_isFramed {text : Text} (framed : isFramed text = true) :
    text.head? ≠ some 0x60 ∧ text.getLast? ≠ some 0x60 := by
  rw [isFramed, Bool.and_eq_true] at framed
  constructor
  · intro same
    rw [same] at framed
    exact absurd framed.1 (by decide)
  · intro same
    rw [same] at framed
    exact absurd framed.2 (by decide)

theorem content_eq_self {text : Text} (framed : isFramed text = true) : content text = text := by
  refine if_neg ?_
  rintro ⟨blank, -⟩
  rw [isFramed, blank] at framed
  exact absurd framed Bool.false_ne_true

/-- **Between single backticks** a text is shown, and nothing is left behind it, exactly when it has
no lone backtick. -/
theorem read?_single {text : Text} (framed : isFramed text = true) :
    read? ("`" ++ text ++ "`") = some (text, []) ↔ ¬ HasLoneBacktick text := by
  have cut : runs ("`" ++ text ++ "`") = [0x60] :: (runs text ++ [[0x60]]) := by
    obtain ⟨starts, ends⟩ := ends_of_isFramed framed
    have front : (text ++ [0x60]).head? ≠ some 0x60 := by
      match text, framed, starts with
      | _ :: _, _, starts => exact starts
    show runs ([] ++ 0x60 :: (text ++ 0x60 :: [])) = _
    rw [runs_single (by decide) front, runs_single ends (by decide)]
    rfl
  have closed : [0x60] ∈ runs text ++ [[0x60]] := List.mem_append_right _ List.mem_cons_self
  rw [← single_mem_runs_iff, read?, cut]
  dsimp only
  rw [if_pos ⟨rfl, List.contains_iff_mem.mpr closed⟩]
  by_cases lone : [0x60] ∈ runs text
  · -- the span ends at the first lone backtick, and the last backtick is left over
    refine iff_of_false (fun same => ?_) (not_not_intro lone)
    obtain ⟨front, behind, split, free⟩ := List.eq_append_cons_of_mem lone
    obtain ⟨-, left⟩ := Text.span_until free ([0x60] :: (behind ++ [[0x60]])) (by simp)
    have rest := (Prod.mk.inj (Option.some.inj same)).2
    rw [split, List.append_assoc, List.cons_append, left] at rest
    simp at rest
  · refine iff_of_true ?_ lone
    obtain ⟨taken, left⟩ := Text.span_until lone [[0x60]] (by simp)
    rw [taken, left, runs, List.flatten_splitBy, content_eq_self framed]
    rfl

end CodeSpan

/-! ## Text on one line -/

/-- A text without line feeds. -/
def Text.OneLine (text : Text) : Prop := 0x0A ∉ text

instance (text : Text) : Decidable text.OneLine := inferInstanceAs (Decidable (0x0A ∉ text))

namespace Text.OneLine

theorem append {a b : Text} (ha : a.OneLine) (hb : b.OneLine) : (a ++ b).OneLine := by
  intro inside
  exact (List.mem_append.mp inside).elim ha hb

theorem flatMap {α : Type} {write : α → Text} {xs : List α} (h : ∀ x ∈ xs, (write x).OneLine) :
    OneLine (xs.flatMap write) := by
  intro inside
  obtain ⟨x, listed, inside⟩ := List.mem_flatMap.mp inside
  exact h x listed inside

/-- Replacing the line feeds leaves none. -/
theorem replaceByte (text : Text) {new : Text} (h : new.OneLine) :
    (text.replaceByte 0x0A new).OneLine := by
  refine flatMap fun b _ => ?_
  split_ifs with feed
  · exact h
  · exact fun inside => feed (List.mem_singleton.mp inside).symm

theorem ofChar {c : Char} (h : c ≠ '\n') : (Text.ofChar c).OneLine := by
  intro inside
  obtain ⟨-, code⟩ := Utf8.shape_of_ascii (Utf8.shape_encode c) inside (by decide)
  exact h (Char.toNat_inj.mp code)

theorem cons {b : UInt8} {text : Text} (other : b ≠ 0x0A) (h : text.OneLine) :
    OneLine (b :: text) := by
  intro inside
  exact (List.mem_cons.mp inside).elim (fun same => other same.symm) h

theorem hex (width n : Nat) : (Text.hex width n).OneLine := by
  have digits : ∀ d < 16, hexDigit d ≠ 0x0A := by decide
  induction width with
  | zero => exact List.not_mem_nil
  | succ width ih => exact cons (digits _ (Nat.mod_lt _ (by decide))) ih

theorem controlName {c name : Char} (found : controlName? c = some name) :
    OneLine [0x5C, byte name] := by
  unfold controlName? at found
  split at found <;> cases found <;> decide

theorem quotedChar (c : Char) : (Text.quotedChar '"' c).OneLine := by
  unfold Text.quotedChar
  split
  · next mark =>
    refine cons (by decide) (ofChar ?_)
    rintro rfl
    exact absurd mark (by decide)
  · split
    · next printable =>
      refine ofChar ?_
      rintro rfl
      exact absurd printable (by decide)
    · split
      · next name found => exact controlName found
      · split_ifs <;> exact append (by decide) (hex _ _)

/-- Quoted text is on one line, whatever it quotes. -/
theorem quoted (text : Text) : text.quoted.OneLine := by
  refine append (append (by decide) (flatMap fun symbol _ => ?_)) (by decide)
  cases symbol with
  | char c => exact quotedChar c
  | stray b => exact append (by decide) (hex _ _)

theorem decimal (n : Nat) : (Decimal.ofNat n).OneLine := by
  intro inside
  exact absurd (Decimal.isDigit_ofNat n _ inside) (by decide)

end Text.OneLine

/-! ## The document -/

namespace Output

open Text

/-- The lines of a document under a heading and an empty line, up to the next empty line. -/
def linesUnder (heading document : Text) : List Text :=
  ((document.lines.dropWhile (· != heading)).drop 2).takeWhile (· != [])

theorem linesUnder_eq {heading : Text} {before under after : List Text}
    (oneLine : ∀ line ∈ before ++ heading :: [] :: (under ++ [] :: after), line.OneLine)
    (first : heading ∉ before) (full : [] ∉ under) (rest : Text) :
    linesUnder heading
      (unlines (before ++ heading :: [] :: (under ++ [] :: after)) ++ rest) = under := by
  obtain ⟨-, found⟩ :=
    span_until first (heading :: [] :: (under ++ [] :: (after ++ rest.lines))) (by simp)
  obtain ⟨taken, -⟩ := span_until full ([] :: (after ++ rest.lines)) (by simp)
  rw [linesUnder, lines_unlines_append oneLine]
  simp only [List.append_assoc, List.cons_append]
  rw [found]
  exact taken

/-- The lines of a table. -/
theorem Table.exists_lines (table : Table) :
    ∃ lines, table.markdown = unlines lines ∧
      ∀ line ∈ lines, line.OneLine ∧ line.head? = some 0x7C := by
  have cell (text : Text) : (pipeCell text).OneLine :=
    ((show OneLine " " by decide).append (.replaceByte _ (by decide))).append (by decide)
  have mark (reached : Bool) : (pipeMark reached).OneLine := by cases reached <;> decide
  have bar : OneLine "|" := by decide
  rw [Table.markdown]
  dsimp only
  split_ifs
  · exact ⟨[], rfl, List.forall_mem_nil _⟩
  · refine ⟨_, rfl, ?_⟩
    simp only [List.cons_append, List.nil_append, List.forall_mem_cons, List.forall_mem_map]
    refine ⟨⟨bar.append (.flatMap fun _ _ => cell _), rfl⟩,
      ⟨bar.append (.flatMap fun _ _ => mark _), rfl⟩, fun row _ => ?_⟩
    exact ⟨bar.append (.flatMap fun _ _ => cell _), rfl⟩

/-- The title of an explanation. -/
def Explained.title (explained : Explained) : Text :=
  header 1 ("Explain " ++ explained.format.quoted ++ " for " ++ explained.dialect)

theorem Explained.oneLine_title {explained : Explained} (named : explained.dialect.OneLine) :
    explained.title.OneLine := by
  have words : OneLine "Explain " := by decide
  exact OneLine.append (a := "# ") (by decide)
    (((words.append (.quoted _)).append (by decide)).append named)

/-- **The fragments of a document** are the lines under their heading. -/
theorem linesUnder_fragments {explained : Explained} (named : explained.dialect.OneLine)
    (oneLine : ∀ line ∈ explained.pieces.mapIdx Piece.markdown, line.OneLine) :
    linesUnder "## Fragments" explained.markdown = explained.pieces.mapIdx Piece.markdown := by
  obtain ⟨rows, table, shown⟩ := explained.table.exists_lines
  have document : explained.markdown =
      unlines ((explained.title :: [] :: header 2 "Tokens" :: [] :: (rows ++ [[]]))
        ++ ("## Fragments" : Text) :: [] :: (explained.pieces.mapIdx Piece.markdown
          ++ [] :: [header 2 "SQL", []]))
        ++ unlines [codeBlock "sql" explained.sql] := by
    rw [Explained.markdown, table]
    have heading : ("## Fragments" : Text) = header 2 "Fragments" := by decide
    simp [unlines, Explained.title, heading]
  rw [document]
  refine linesUnder_eq ?_ ?_ ?_ _
  · simp only [List.cons_append, List.forall_mem_cons, List.forall_mem_append]
    refine ⟨explained.oneLine_title named, by decide, by decide, by decide,
      ⟨fun row listed => (shown row listed).1, by decide⟩, by decide, by decide, oneLine, by decide⟩
  · -- the heading is none of the lines before it: they start with one `#`, with a bar or not at all
    simp only [List.mem_cons, List.mem_append, not_or]
    refine ⟨fun same => ?_, by decide, by decide, by decide, fun listed => ?_, by decide⟩
    · have second : explained.title[1]? = some 0x20 := rfl
      rw [← same] at second
      exact absurd second (by decide)
    · exact absurd (shown _ listed).2 (by decide)
  · intro listed
    obtain ⟨index, h, empty⟩ := List.mem_mapIdx.mp listed
    exact List.cons_ne_nil _ _ empty

/-! ## Fragments -/

theorem Piece.oneLine_markdown (index : Nat) {piece : Piece} (kind : piece.kind.OneLine)
    (sql : piece.sql.OneLine) : (piece.markdown index).OneLine := by
  have key : (piece.key index).OneLine :=
    (((OneLine.decimal _).append (by decide)).append kind).append (by decide)
  have span : OneLine ("`" ++ piece.sql ++ "`") :=
    ((show OneLine "`" by decide).append sql).append (by decide)
  exact (((show OneLine "- **" by decide).append key).append (by decide)).append span

section Accepted

variable {engine : Engine} {column format : Text} {piece : Piece}

/-- The explanation of an accepted format around a column. -/
abbrev ofColumn (engine : Engine) (column format : Text) : Explained :=
  .accepted engine.grammar engine (engine.grammar.path column) format

theorem exists_fragment (listed : piece ∈ (ofColumn engine column format).pieces) :
    ∃ fragment ∈ (Explanation.accepted engine format).fragments,
      piece.kind.OneLine ∧
      piece.sql = fragment.sql engine.grammar (engine.grammar.path column) := by
  obtain ⟨fragment, planned, rfl⟩ := List.mem_map.mp listed
  refine ⟨fragment, planned, ?_, rfl⟩
  show fragment.kindName.OneLine
  rw [Fragment.kindName]
  split_ifs <;> decide

/-- The foreign bytes of a fragment come from the format and the column, but for MySQL's quotes. -/
theorem not_mem_sql {b : UInt8} (foreign : isForeign b = true) (quote : b ≠ engine.endQuote)
    (accepted : Pattern.validate format = .ok ()) (free : b ∉ format) (own : b ∉ column)
    (listed : piece ∈ (ofColumn engine column format).pieces) : b ∉ piece.sql := by
  intro inside
  obtain ⟨fragment, planned, -, sql⟩ := exists_fragment listed
  rw [sql] at inside
  rcases Fragment.mem_sql foreign accepted planned inside with inside | inside
  · exact own (Engine.mem_path foreign quote inside)
  · exact free inside

/-- On MySQL the quote that opens a segment of the column is a lone backtick of every fragment. -/
theorem hasLoneBacktick_sql {segment : Text} (within : segment ∈ column.splitAtByte 0x2E)
    (nonempty : segment ≠ []) (star : segment ≠ "*") (own : 0x60 ∉ column)
    (listed : piece ∈ (ofColumn .mysql column format).pieces) :
    CodeSpan.HasLoneBacktick piece.sql := by
  obtain ⟨fragment, planned, -, sql⟩ := exists_fragment listed
  obtain ⟨front, free, placed⟩ := Fragment.exists_front planned
  obtain ⟨back, placed⟩ := placed (Engine.mysql.grammar.path column)
  obtain ⟨before, c, after, opened, apart, plain⟩ := Engine.exists_opening within nonempty star own
  refine ⟨front ++ before, c :: (after ++ back), ?_, fun last => ?_, ?_⟩
  · rw [sql, placed, opened]
    simp
  · rw [List.getLast?_append, Option.or_eq_some_iff] at last
    rcases last with last | ⟨-, last⟩
    · exact apart last
    · exact free (List.mem_of_getLast? last)
  · exact fun same => plain (Option.some.inj same)

end Accepted

end Output

/-! ## The command -/

namespace Cli.Job

theorem out_explain {job : Job} {engine : Engine} {others : List Grammar}
    (selected : job.dialects = .ok (engine.grammar :: others)) (markdown : job.shape = .markdown)
    {format : Text} (accepted : Pattern.validate format = .ok ()) :
    (job.explain format).out = (Output.ofColumn engine job.column format).markdown := by
  rw [explain, selected]
  simp only [Output.explain_accepted engine.kind_grammar (.column job.column) accepted, markdown]
  rfl

/-- **Which fragments an explanation shows in markdown.** For an accepted format and a column, both
without line feeds, the lines under the heading are one for each fragment: its place and kind, and
then its SQL between single backticks. That is a code span which shows the SQL, with nothing behind
it, exactly when the SQL has no lone backtick. On dialects other than MySQL it is one for every
fragment, unless the format or the column has a backtick. On MySQL it is one for none, for a column
without backticks, as soon as a segment of its name is quoted and not empty. -/
theorem fragments_intact_iff (job : Job) (engine : Engine) (others : List Grammar)
    (selected : job.dialects = .ok (engine.grammar :: others)) (markdown : job.shape = .markdown)
    (format : Text) (accepted : Pattern.validate format = .ok ()) (oneLine : 0x0A ∉ format)
    (column : 0x0A ∉ job.column) :
    ∃ explained, Output.explain engine.grammar (.column job.column) format = .ok explained ∧
      Output.linesUnder "## Fragments" (job.explain format).out =
        explained.pieces.mapIdx (fun index piece =>
          ("- **" ++ piece.key index ++ "**: " ++ ("`" ++ piece.sql ++ "`") : Text)) ∧
      (∀ piece ∈ explained.pieces,
        CodeSpan.read? ("`" ++ piece.sql ++ "`") = some (piece.sql, []) ↔
          ¬ CodeSpan.HasLoneBacktick piece.sql) ∧
      (engine ≠ .mysql → 0x60 ∉ format → 0x60 ∉ job.column →
        ∀ piece ∈ explained.pieces, ¬ CodeSpan.HasLoneBacktick piece.sql) ∧
      (engine = .mysql → 0x60 ∉ job.column →
        (∃ name ∈ job.column.splitAtByte 0x2E, name ≠ [] ∧ name ≠ "*") →
        ∀ piece ∈ explained.pieces, CodeSpan.HasLoneBacktick piece.sql) := by
  refine ⟨Output.ofColumn engine job.column format,
    Output.explain_accepted engine.kind_grammar (.column job.column) accepted, ?_, ?_, ?_, ?_⟩
  · have feed : 0x0A ≠ engine.endQuote := by cases engine <;> decide
    have named : engine.grammar.name.OneLine := by cases engine <;> decide
    rw [out_explain selected markdown accepted]
    refine Output.linesUnder_fragments named fun line mem => ?_
    obtain ⟨index, h, rfl⟩ := List.mem_mapIdx.mp mem
    have listed := List.getElem_mem h
    obtain ⟨-, -, kind, -⟩ := Output.exists_fragment listed
    exact Output.Piece.oneLine_markdown index kind
      (Output.not_mem_sql rfl feed accepted oneLine column listed)
  · intro piece listed
    obtain ⟨fragment, planned, -, sql⟩ := Output.exists_fragment listed
    rw [sql]
    exact CodeSpan.read?_single (fragment.isFramed_sql planned _)
  · rintro other free own piece listed ⟨before, after, split, -⟩
    have quote : 0x60 ≠ engine.endQuote := by
      cases engine with
      | mysql => exact absurd rfl other
      | sqlite => decide
      | postgres => decide
      | sqlserver => decide
    refine Output.not_mem_sql rfl quote accepted free own listed ?_
    rw [split]
    exact List.mem_append_right _ List.mem_cons_self
  · rintro rfl own ⟨segment, within, nonempty, star⟩ piece listed
    exact Output.hasLoneBacktick_sql within nonempty star own listed

/-- On SQLite, with two fragments around a column in a table, both are shown. -/
theorem fragments_intact_iff_sqlite :
    let job : Job := ⟨{}, { Config.default with
      dialects := ["sqlite"], column := "t.at", output := "markdown" }, {}⟩
    job.dialects = .ok [Engine.sqlite.grammar] ∧ job.shape = .markdown ∧
    Pattern.validate "Y D" = .ok () ∧
    ∃ explained, Output.explain Engine.sqlite.grammar (.column "t.at") "Y D" = .ok explained ∧
      (Output.linesUnder "## Fragments" (job.explain "Y D").out).length = 2 ∧
      ∀ piece ∈ explained.pieces,
        CodeSpan.read? ("`" ++ piece.sql ++ "`") = some (piece.sql, []) := by
  intro job
  have selected : job.dialects = .ok [Engine.sqlite.grammar] := by rfl
  have markdown : job.shape = .markdown := by rfl
  have accepted : Pattern.validate "Y D" = .ok () := by decide
  obtain ⟨explained, runs, lines, shown, none, -⟩ :=
    fragments_intact_iff job .sqlite [] selected markdown "Y D" accepted (by decide) (by decide)
  refine ⟨selected, markdown, accepted, explained, runs, ?_, fun piece listed => ?_⟩
  · obtain rfl := Except.ok.inj runs
    rw [lines]
    rfl
  · exact (shown piece listed).mpr (none (by decide) (by decide) (by decide) piece listed)

/-- On MySQL the span of a fragment ends at the quote that opens the name of the column. -/
theorem mysql_quotes_end_span :
    let job : Job := ⟨{}, { Config.default with
      dialects := ["mysql"], column := "created_at", output := "markdown" }, {}⟩
    let sql : Text := "date_format(`created_at`, '%Y')"
    (∃ explained, Output.explain Engine.mysql.grammar (.column "created_at") "Y" = .ok explained ∧
      explained.pieces = [⟨"native", sql⟩]) ∧
    Output.linesUnder "## Fragments" (job.explain "Y").out =
      [("- **1 (native)**: " ++ ("`" ++ sql ++ "`") : Text)] ∧
    CodeSpan.read? ("`" ++ sql ++ "`") =
      some (("date_format(" : Text), ("created_at`, '%Y')`" : Text)) := by
  refine ⟨⟨_, rfl, rfl⟩, ?_, ?_⟩
  · decide +kernel
  · decide

end Cli.Job

end DatePattern
