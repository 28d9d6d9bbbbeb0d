import DatePattern.Proofs.Dialect.Names
import DatePattern.Proofs.NativeFormat.Postgres
import DatePattern.Proofs.Pattern.Acceptance
import DatePattern.Proofs.Plan.Context

/-!
# The bytes of a fragment

A document that quotes the SQL of a fragment cares for a few bytes: the line feed, the backtick and
what stands at the two ends. Around a subject no dialect writes one of the first two of its own
accord, so they come from the format or from the subject:

- `Surrounds.mem`, `Surrounds.isFramed`: the bytes of a text around a subject, and its two ends, are
  known once they are known around one subject;
- `NativeFormat.mem_ofParts`: escaping adds neither of the bytes to the text of a format;
- `Fragment.mem_sql`, `Fragment.isFramed_sql`: the same for every fragment of a plan;
- `getLast?_of_compile`: compiled SQL does not end with a line feed, in any dialect of an engine;
- `Engine.mem_path`, `Engine.exists_opening`: a column as the subject. Its own bytes are kept, and
  on MySQL its quotes are backticks.
-/

namespace DatePattern

/-- The bytes that no dialect writes around a subject of its own accord: the line feed and the
backtick. -/
def isForeign (b : UInt8) : Bool := b = 0x0A || b = 0x60

theorem not_mem_of_any {b : UInt8} {text : Text} (foreign : isForeign b = true)
    (none : text.any isForeign = false) : b ∉ text := by
  intro mem
  have some : text.any isForeign = true := List.any_eq_true.mpr ⟨b, mem, foreign⟩
  rw [none] at some
  cases some

/-- Whether a text starts with neither a backtick nor a blank and does not end with a backtick. -/
def isFramed (text : Text) : Bool :=
  text.head?.any (fun b => b != 0x60 && b != 0x20) && text.getLast?.any (· != 0x60)

/-! ## Text around a subject -/

namespace Surrounds

variable {n : Nat} {f : Text → Text}

/-- A byte that is written belongs to the subject or stands there without it. -/
theorem mem (h : Surrounds n f) {b : UInt8} {subject : Text} (inside : b ∈ f subject) :
    b ∈ subject ∨ b ∈ f [] := by
  obtain ⟨segments, -, joined⟩ := h
  rw [joined] at inside ⊢
  cases segments with
  | nil => exact absurd inside List.not_mem_nil
  | cons first rest =>
    rw [Text.joinWith_cons, List.mem_append, List.mem_flatMap] at inside ⊢
    rcases inside with inside | ⟨segment, listed, inside⟩
    · exact .inr (.inl inside)
    · rcases List.mem_append.mp inside with inside | inside
      · exact .inl inside
      · exact .inr (.inr ⟨segment, listed, inside⟩)

/-- When a byte as the subject does not stand at the end, no subject does, and the end is always the
same. -/
theorem getLast?_eq (h : Surrounds n f) {b : UInt8} (ends : (f [b]).getLast? ≠ some b)
    (subject : Text) : (f subject).getLast? = (f [b]).getLast? := by
  obtain ⟨segments, -, joined⟩ := h
  rw [joined] at ends
  rw [joined, joined]
  cases segments with
  | nil => rfl
  | cons first rest =>
    rcases List.eq_nil_or_concat rest with rfl | ⟨init, last, rfl⟩
    · rfl
    · rw [Text.joinWith_cons] at ends
      rw [Text.joinWith_cons, Text.joinWith_cons]
      rcases List.eq_nil_or_concat last with rfl | ⟨front, c, rfl⟩
      · simp at ends
      · have tail (subject : Text) :
            first ++ (init.concat (front.concat c)).flatMap (subject ++ ·) =
              (first ++ init.flatMap (subject ++ ·) ++ subject ++ front) ++ [c] := by simp
        rw [tail, tail, List.getLast?_concat, List.getLast?_concat]

/-- When a backtick as the subject stands at neither end, no subject does, and the ends are always
the same. -/
theorem isFramed (h : Surrounds n f) (framed : DatePattern.isFramed (f [0x60]) = true)
    (subject : Text) : DatePattern.isFramed (f subject) = true := by
  simp only [DatePattern.isFramed, Bool.and_eq_true] at framed ⊢
  obtain ⟨starts, ends⟩ := framed
  constructor
  · obtain ⟨segments, -, joined⟩ := h
    rw [joined] at starts ⊢
    match segments with
    | [] => exact absurd starts Bool.false_ne_true
    | [] :: rest => cases rest <;> exact absurd starts Bool.false_ne_true
    | (b :: _) :: rest => cases rest <;> exact starts
  · rw [h.getLast?_eq (b := 0x60) ?_ subject]
    · exact ends
    · intro same
      rw [same] at ends
      exact absurd ends (by decide)

/-- What stands in front of the first place is free of what is not there without a subject. -/
theorem exists_front (h : Surrounds n f) (places : 1 ≤ n) {b : UInt8} (free : b ∉ f []) :
    ∃ front : Text, b ∉ front ∧ ∀ subject, ∃ back, f subject = front ++ (subject ++ back) := by
  obtain ⟨segments, length, joined⟩ := h
  match segments, length with
  | [first], length => exact absurd length (by simp; omega)
  | first :: second :: rest, _ =>
    refine ⟨first, fun inside => free ?_, fun subject =>
      ⟨second ++ rest.flatMap fun part => subject ++ part, ?_⟩⟩
    · rw [joined, Text.joinWith_cons]
      exact List.mem_append_left _ inside
    · rw [joined, Text.joinWith_cons, List.flatMap_cons, List.append_assoc]

end Surrounds

/-! ## Tables -/

/-- Whether a capability writes no foreign byte, and nothing of its subject at an end. -/
def Capability.isClean (engine : Engine) : Capability → Bool
  | .native specifier => !specifier.any isForeign
  | .emulated recipe =>
    !(recipe.sql engine.grammar []).any isForeign && isFramed (recipe.sql engine.grammar [0x60])

theorem Engine.isClean_table (engine : Engine) :
    ∀ entry ∈ engine.table, entry.2.isClean engine = true := by
  cases engine <;> decide +kernel

theorem Recipe.isClean {engine : Engine} {c : Char} {recipe : Recipe}
    (found : engine.capability? c = some (.emulated recipe)) :
    (recipe.sql engine.grammar []).any isForeign = false ∧
      isFramed (recipe.sql engine.grammar [0x60]) = true := by
  have clean := engine.isClean_table _ (Engine.mem_table_of_capability? found)
  rw [Capability.isClean, Bool.and_eq_true, Bool.not_eq_true'] at clean
  exact clean

/-! ## Native formats -/

/-- Bytes that are written as themselves or as text without foreign bytes. -/
theorem mem_of_mem_flatMap {b : UInt8} {text : Text} {write : UInt8 → Text}
    (written : ∀ c, b ∈ write c → b = c) (inside : b ∈ text.flatMap write) : b ∈ text := by
  obtain ⟨c, listed, inside⟩ := List.mem_flatMap.mp inside
  exact written c inside ▸ listed

/-- A byte of a run of literal text is one of a part. -/
theorem NativeFormat.mem_runs {b : UInt8} {parts : List Resolution} {text : Text}
    (listed : .literal text ∈ runs parts) (inside : b ∈ text) :
    ∃ part ∈ parts, b ∈ part.token.text := by
  induction parts generalizing text with
  | nil => exact absurd listed List.not_mem_nil
  | cons part rest ih =>
    have behind {text : Text} (listed : .literal text ∈ runs rest) (inside : b ∈ text) :
        ∃ part' ∈ part :: rest, b ∈ part'.token.text := by
      obtain ⟨other, listed, inside⟩ := ih listed inside
      exact ⟨other, List.mem_cons_of_mem _ listed, inside⟩
    rw [runs] at listed
    split_ifs at listed
    · exact behind ((List.mem_cons.mp listed).resolve_left Run.noConfusion) inside
    · split at listed
      · next tail more found =>
        rcases List.mem_cons.mp listed with same | listed
        · rw [Run.literal.inj same] at inside
          rcases List.mem_append.mp inside with inside | inside
          · exact ⟨part, List.mem_cons_self, inside⟩
          · exact behind (found ▸ List.mem_cons_self) inside
        · exact behind (found ▸ List.mem_cons_of_mem _ listed) inside
      · rcases List.mem_cons.mp listed with same | listed
        · exact ⟨part, List.mem_cons_self, Run.literal.inj same ▸ inside⟩
        · exact behind listed inside

/-- The text of a token stands in the format. -/
theorem Token.mem_format {format : Text} (accepted : Pattern.validate format = .ok ())
    {token : Token} (read : token ∈ tokenize format) {b : UInt8} (inside : b ∈ token.text) :
    b ∈ format := by
  obtain ⟨before, after, split⟩ := List.append_of_mem read
  have raw : b ∈ token.raw := by
    obtain ⟨c, -, rfl⟩ | ⟨c, rfl⟩ | ⟨-, rfl⟩ := (fits_iff ..).mp (fits_of_eq_append split)
    · exact inside
    · rw [raw_escaped]
      exact List.mem_append_right _ inside
    · exact inside
  have whole : source (tokenize format) = format :=
    (source_ofCharsFrom 0 _).trans (Text.ofChars_chars (Pattern.isUtf8_of_accepted accepted))
  rw [← whole]
  exact List.mem_flatMap.mpr ⟨token, read, raw⟩

theorem Fragment.spelled_accepted {engine : Engine} {format : Text}
    (accepted : Pattern.validate format = .ok ()) {fragment : Fragment}
    (listed : fragment ∈ (Explanation.accepted engine format).fragments)
    (native : fragment.emulated = false) : ∀ part ∈ fragment.parts, part.Spelled engine := by
  obtain ⟨fragments, planned, spelled⟩ := exists_spelled engine accepted
  rw [plan_eq, accepted] at planned
  obtain rfl := Except.ok.inj planned
  exact spelled fragment listed native

/-- A call of the date function: a name, and the subject and the format in an order that is the
dialect's. -/
theorem Fragment.nativeCall_eq (engine : Engine) (subject format : Text) :
    ∃ name first second : Text,
      nativeCall engine.grammar subject format = name ++ first ++ ", " ++ second ++ ")" ∧
      name.any isForeign = false ∧ isFramed name = true ∧
      ((first = subject ∧ second = engine.grammar.string format) ∨
        (engine = .sqlite ∧ first = engine.grammar.string format ∧ second = subject)) := by
  cases engine with
  | mysql => exact ⟨"date_format(", _, _, rfl, rfl, rfl, .inl ⟨rfl, rfl⟩⟩
  | sqlite => exact ⟨"strftime(", _, _, rfl, rfl, rfl, .inr ⟨rfl, rfl, rfl⟩⟩
  | postgres => exact ⟨"to_char(", _, _, rfl, rfl, rfl, .inl ⟨rfl, rfl⟩⟩
  | sqlserver => exact ⟨"format(", _, _, rfl, rfl, rfl, .inl ⟨rfl, rfl⟩⟩

theorem isFramed_append {front : Text} (framed : isFramed front = true) (middle : Text) {b : UInt8}
    (last : (b != 0x60) = true) : isFramed (front ++ middle ++ [b]) = true := by
  match front, framed with
  | c :: rest, framed =>
    rw [isFramed, Bool.and_eq_true] at framed ⊢
    refine ⟨framed.1, ?_⟩
    rw [List.getLast?_concat]
    exact last

theorem Fragment.isFramed_nativeCall (engine : Engine) (subject format : Text) :
    isFramed (nativeCall engine.grammar subject format) = true := by
  obtain ⟨name, first, second, call, -, framed, -⟩ := nativeCall_eq engine subject format
  rw [call, List.append_assoc name, List.append_assoc name]
  exact isFramed_append framed _ rfl

section Foreign

variable {b : UInt8} (foreign : isForeign b = true)

include foreign

theorem mem_replaceByte {text new : Text} {old : UInt8} (free : new.any isForeign = false)
    (inside : b ∈ text.replaceByte old new) : b ∈ text := by
  rcases Text.mem_of_mem_replaceByte inside with inside | inside
  · exact absurd inside (not_mem_of_any foreign free)
  · exact inside

theorem Grammar.mem_string {g : Grammar} {text : Text} (inside : b ∈ g.string text) : b ∈ text := by
  have quote : b ∉ ("'" : Text) := not_mem_of_any foreign rfl
  rw [Grammar.string] at inside
  simp only [List.mem_append, quote, false_or, or_false] at inside
  have inside := mem_replaceByte foreign rfl inside
  split_ifs at inside
  · exact mem_replaceByte foreign rfl inside
  · exact inside

theorem Engine.not_mem_specifier {engine : Engine} {specifier : Text}
    (listed : specifier ∈ engine.specifiers) : b ∉ specifier := by
  obtain ⟨⟨c, capability⟩, mem, found⟩ := List.mem_filterMap.mp listed
  have clean := engine.isClean_table _ mem
  cases capability with
  | native own =>
    obtain rfl := Option.some.inj found
    exact not_mem_of_any foreign (Bool.not_eq_true' _ ▸ clean)
  | emulated recipe => cases found

namespace NativeFormat

theorem mem_escape {engine : Engine} {cs : List Char}
    (inside : b ∈ escape engine.kind (Text.ofChars cs)) : b ∈ Text.ofChars cs := by
  have backslash : b ≠ 0x5C := by rintro rfl; exact absurd foreign (by decide)
  rw [escape, Engine.engine?_kind] at inside
  cases engine with
  | mysql => exact mem_replaceByte foreign rfl inside
  | sqlite => exact mem_replaceByte foreign rfl inside
  | postgres =>
    have quote : b ∉ ("\"" : Text) := not_mem_of_any foreign rfl
    simp only at inside
    split_ifs at inside
    · simp only [List.mem_append, quote, false_or, or_false] at inside
      refine mem_of_mem_flatMap (fun c inside => ?_) inside
      rw [postgresByte] at inside
      split_ifs at inside
      · exact (List.mem_pair.mp inside).resolve_left backslash
      · exact List.mem_singleton.mp inside
    · exact inside
  | sqlserver =>
    simp only [Text.chars_ofChars] at inside
    obtain ⟨c, listed, inside⟩ := List.mem_flatMap.mp inside
    refine List.mem_flatMap.mpr ⟨c, listed, ?_⟩
    split_ifs at inside
    · exact (List.mem_cons.mp inside).resolve_left backslash
    · exact inside

theorem mem_write {engine : Engine} {runs : List Run} (spelled : ∀ run ∈ runs, run.Spelled engine)
    {previous : Text} (inside : b ∈ write engine.kind previous runs) :
    ∃ text, .literal text ∈ runs ∧ b ∈ text := by
  induction runs generalizing previous with
  | nil => exact absurd inside List.not_mem_nil
  | cons run rest ih =>
    obtain ⟨first, others⟩ := List.forall_mem_cons.mp spelled
    have behind {previous : Text} (inside : b ∈ write engine.kind previous rest) :
        ∃ text, .literal text ∈ run :: rest ∧ b ∈ text := by
      obtain ⟨text, listed, inside⟩ := ih others inside
      exact ⟨text, List.mem_cons_of_mem _ listed, inside⟩
    cases run with
    | specifier text =>
      have quotes : b ∉ ("\"\"" : Text) := not_mem_of_any foreign rfl
      have own : b ∉ text := engine.not_mem_specifier foreign first
      rw [write] at inside
      simp only [List.mem_append, own, or_false] at inside
      rcases inside with inside | inside
      · split_ifs at inside
        · exact absurd inside quotes
        · exact absurd inside List.not_mem_nil
      · exact behind inside
    | literal text =>
      obtain ⟨c, cs, rfl⟩ := first
      rw [write] at inside
      rcases List.mem_append.mp inside with inside | inside
      · exact ⟨_, List.mem_cons_self, mem_escape foreign inside⟩
      · exact behind inside

/-- Escaping adds no foreign byte to the text of a format. -/
theorem mem_ofParts {engine : Engine} {parts : List Resolution}
    (spelled : ∀ part ∈ parts, part.Spelled engine) (inside : b ∈ ofParts engine.kind parts) :
    ∃ part ∈ parts, b ∈ part.token.text := by
  have backslash : b ≠ 0x5C := by rintro rfl; exact absurd foreign (by decide)
  have inside : b ∈ write engine.kind [] (runs parts) := by
    rw [ofParts, guarded] at inside
    split_ifs at inside
    · exact (List.mem_cons.mp inside).resolve_left backslash
    · exact inside
  obtain ⟨text, listed, inside⟩ := mem_write foreign (runs_spelled spelled).1 inside
  exact mem_runs listed inside

end NativeFormat

/-! ## Fragments -/

namespace Fragment

theorem mem_nativeCall {engine : Engine} {subject format : Text}
    (inside : b ∈ nativeCall engine.grammar subject format) : b ∈ subject ∨ b ∈ format := by
  obtain ⟨name, first, second, call, free, -, arguments⟩ := nativeCall_eq engine subject format
  have own : b ∉ name := not_mem_of_any foreign free
  have comma : b ∉ (", " : Text) := not_mem_of_any foreign rfl
  have closing : b ∉ (")" : Text) := not_mem_of_any foreign rfl
  rw [call] at inside
  simp only [List.mem_append, own, comma, closing, false_or, or_false] at inside
  rcases arguments with ⟨rfl, rfl⟩ | ⟨-, rfl, rfl⟩
  · exact inside.imp_right (Grammar.mem_string foreign)
  · exact inside.symm.imp_right (Grammar.mem_string foreign)

/-- **The foreign bytes of a fragment** are bytes of the subject or of the format. -/
theorem mem_sql {engine : Engine} {format subject : Text}
    (accepted : Pattern.validate format = .ok ()) {fragment : Fragment}
    (listed : fragment ∈ (Explanation.accepted engine format).fragments)
    (inside : b ∈ fragment.sql engine.grammar subject) : b ∈ subject ∨ b ∈ format := by
  have group := groupOf_coalesce _ fragment listed
  rcases sql_cases group with ⟨c, recipe, found, sql⟩ | ⟨native, sql⟩
  · rw [sql] at inside
    obtain ⟨free, -⟩ := Recipe.isClean found
    exact .inl (((recipe.surrounds engine.grammar).mem inside).resolve_right
      (not_mem_of_any foreign free))
  · rw [sql, engine.kind_grammar] at inside
    refine (mem_nativeCall foreign inside).imp_right fun inside => ?_
    obtain ⟨part, own, inside⟩ :=
      NativeFormat.mem_ofParts foreign (spelled_accepted accepted listed native) inside
    have planned : part ∈ (Token.tokenize format).map (Resolution.decided engine) := by
      rw [← parts_coalesce ((Token.tokenize format).map (Resolution.decided engine))]
      exact List.mem_flatMap.mpr ⟨fragment, listed, own⟩
    obtain ⟨token, read, rfl⟩ := List.mem_map.mp planned
    rw [Resolution.token_decided] at inside
    exact Token.mem_format accepted read inside

end Fragment

end Foreign

/-- **The ends of a fragment** are the dialect's: it starts with neither a backtick nor a blank and
does not end with a backtick, whatever its subject. -/
theorem Fragment.isFramed_sql {engine : Engine} {format : Text} {fragment : Fragment}
    (listed : fragment ∈ (Explanation.accepted engine format).fragments) (subject : Text) :
    isFramed (fragment.sql engine.grammar subject) = true := by
  rcases sql_cases (groupOf_coalesce _ fragment listed) with ⟨c, recipe, found, sql⟩ | ⟨-, sql⟩
  · rw [sql]
    exact (recipe.surrounds engine.grammar).isFramed (Recipe.isClean found).2 subject
  · rw [sql]
    exact isFramed_nativeCall engine subject _

/-! ## The last byte -/

theorem getLast?_append_of_eq (front : Text) {back : Text} {b : UInt8}
    (last : back.getLast? = some b) : (front ++ back).getLast? = some b := by
  rw [List.getLast?_append, last, Option.some_or]

/-- The SQL of a synthesis ends with a parenthesis. -/
theorem Synthesis.getLast?_sql (g : Grammar) (subject : Text) (synthesis : Synthesis) :
    (synthesis.sql g subject).getLast? = some 0x29 := by
  cases synthesis with
  | unpadded specifier =>
    rw [sql, build, Expr.text, Sql.ltrim]
    split <;> exact getLast?_append_of_eq _ rfl
  | _ =>
    rw [sql]
    simp only [build, meridiem, Expr.text]
    exact getLast?_append_of_eq _ rfl

theorem Fragment.getLast?_nativeCall (g : Grammar) (subject format : Text) :
    (nativeCall g subject format).getLast? = some 0x29 := by
  rw [nativeCall]
  split <;> exact getLast?_append_of_eq _ rfl

theorem Sql.getLast?_concat (kind : Kind) (parts : List Text) :
    (Sql.concat kind parts).getLast? = some 0x29 := by
  rw [Sql.concat]
  split <;> exact getLast?_append_of_eq _ rfl

/-- Whether a capability leaves no line feed of its subject at its end. -/
def Capability.endsPlain : Capability → Bool
  | .emulated (.template template) => (template.render [0x0A]).getLast? != some 0x0A
  | _ => true

theorem Engine.endsPlain_table (engine : Engine) :
    ∀ entry ∈ engine.table, entry.2.endsPlain = true := by
  cases engine <;> decide +kernel

theorem Recipe.getLast?_sql {engine : Engine} {c : Char} {recipe : Recipe}
    (found : engine.capability? c = some (.emulated recipe)) (g : Grammar) (subject : Text) :
    (recipe.sql g subject).getLast? ≠ some 0x0A := by
  cases recipe with
  | synthesis synthesis =>
    rw [sql, synthesis.getLast?_sql]
    decide
  | template template =>
    have ends : (template.render [0x0A]).getLast? ≠ some 0x0A := by
      have plain := engine.endsPlain_table _ (Engine.mem_table_of_capability? found)
      rwa [Capability.endsPlain, bne_iff_ne] at plain
    have surrounds : Surrounds _ fun subject => template.render subject :=
      (Recipe.template template).surrounds g
    rw [sql, surrounds.getLast?_eq ends]
    exact ends

theorem Fragment.getLast?_sql {engine : Engine} {tokens : List Token} {fragment : Fragment}
    (group : GroupOf (tokens.map (Resolution.decided engine)) fragment) (g : Grammar)
    (subject : Text) : (fragment.sql g subject).getLast? ≠ some 0x0A := by
  rcases sql_cases group with ⟨c, recipe, found, sql⟩ | ⟨-, sql⟩
  · rw [sql]
    exact recipe.getLast?_sql found g subject
  · rw [sql, getLast?_nativeCall]
    decide

/-- **Compiled SQL does not end with a line feed**, whatever its subject. -/
theorem getLast?_of_compile {g : Grammar} (valid : g.kind.isValid = true) {subject : SqlExpr}
    {format sql : Text} (compiled : compile g subject format = .ok sql) :
    sql.getLast? ≠ some 0x0A := by
  obtain ⟨engine, kind⟩ := Kind.eq_kind_of_isValid valid
  rw [compile, compileText_eq kind] at compiled
  cases checked : Pattern.validate format with
  | error e =>
    rw [checked] at compiled
    cases compiled
  | ok u =>
    rw [checked] at compiled
    obtain rfl := Except.ok.inj compiled
    have groups :=
      Fragment.groupOf_coalesce ((Token.tokenize format).map (Resolution.decided engine))
    generalize Fragment.coalesce _ = fragments at groups
    rcases fragments with _ | ⟨single, _ | ⟨second, rest⟩⟩
    · have quoted : (g.string []).getLast? = some 0x27 := getLast?_append_of_eq _ rfl
      show (g.string []).getLast? ≠ _
      rw [quoted]
      decide
    · exact Fragment.getLast?_sql (groups single List.mem_cons_self) g _
    · show (Sql.concat g.kind _).getLast? ≠ _
      rw [Sql.getLast?_concat]
      decide

/-- On MySQL no backtick stands in front of the first place of the subject. -/
theorem Fragment.exists_front {format : Text} {fragment : Fragment}
    (listed : fragment ∈ (Explanation.accepted .mysql format).fragments) :
    ∃ front : Text, 0x60 ∉ front ∧ ∀ subject, ∃ back,
      fragment.sql Engine.mysql.grammar subject = front ++ (subject ++ back) := by
  rcases sql_cases (groupOf_coalesce _ fragment listed) with ⟨c, recipe, found, sql⟩ | ⟨-, sql⟩
  · simp only [sql]
    have places := Engine.places_table .mysql _ (Engine.mem_table_of_capability? found)
    exact (recipe.surrounds _).exists_front places (not_mem_of_any rfl (Recipe.isClean found).1)
  · simp only [sql]
    refine ⟨"date_format(", by decide, fun subject => ?_⟩
    show ∃ back, "date_format(" ++ subject ++ ", " ++ _ ++ ")" = _
    rw [List.append_assoc, List.append_assoc, List.append_assoc]
    exact ⟨_, rfl⟩

/-! ## Names -/

/-- The foreign bytes of a quoted name, but for the quotes, are its own. -/
theorem Engine.mem_path {engine : Engine} {name : Text} {b : UInt8} (foreign : isForeign b = true)
    (other : b ≠ engine.endQuote) (inside : b ∈ engine.grammar.path name) : b ∈ name := by
  have dot : b ∉ ("." : Text) := not_mem_of_any foreign rfl
  have opening : b ∉ engine.grammar.opening := by
    cases engine with
    | mysql => exact fun inside => other (List.mem_singleton.mp inside)
    | sqlite => exact not_mem_of_any foreign rfl
    | postgres => exact not_mem_of_any foreign rfl
    | sqlserver => exact not_mem_of_any foreign rfl
  obtain ⟨written, mem, inside⟩ := (Text.mem_joinWith inside).resolve_left dot
  obtain ⟨segment, listed, rfl⟩ := List.mem_map.mp mem
  refine Text.mem_of_mem_splitAtByte listed ?_
  rw [Grammar.segment] at inside
  split_ifs at inside with star
  · exact star ▸ inside
  · rw [engine.identifier_eq] at inside
    simp only [List.mem_append, List.mem_singleton, opening, other, false_or, or_false] at inside
    refine mem_of_mem_flatMap (fun c inside => ?_) inside
    rw [identifierByte] at inside
    split_ifs at inside
    · simp [other] at inside
    · exact List.mem_singleton.mp inside

/-- On MySQL a segment of a name that is quoted and not empty opens with a backtick by itself. -/
theorem Engine.exists_opening {name segment : Text} (listed : segment ∈ name.splitAtByte 0x2E)
    (nonempty : segment ≠ []) (star : segment ≠ "*") (free : 0x60 ∉ name) :
    ∃ (before : Text) (c : UInt8) (after : Text),
      Engine.mysql.grammar.path name = before ++ 0x60 :: c :: after ∧
      before.getLast? ≠ some 0x60 ∧ c ≠ 0x60 := by
  obtain ⟨c, rest, rfl⟩ := List.exists_cons_of_ne_nil nonempty
  have plain : c ≠ 0x60 := by
    rintro rfl
    exact free (Text.mem_of_mem_splitAtByte listed List.mem_cons_self)
  have quoted : ∃ back, Engine.mysql.grammar.segment (c :: rest) = 0x60 :: c :: back := by
    rw [Grammar.segment, if_neg star, identifier_eq, List.flatMap_cons, identifierByte,
      if_neg (show c ≠ Engine.mysql.endQuote from plain)]
    exact ⟨_, rfl⟩
  obtain ⟨back, quoted⟩ := quoted
  obtain ⟨front, behind, split⟩ := List.append_of_mem listed
  rw [Grammar.path, split, List.map_append, List.map_cons, quoted]
  by_cases first : front = []
  · rw [first, List.map_nil, List.nil_append, Text.joinWith_cons]
    exact ⟨[], c, _, rfl, by decide, plain⟩
  · have some : front.map Engine.mysql.grammar.segment ≠ [] := mt List.map_eq_nil_iff.mp first
    rw [Text.joinWith_append_cons _ some, Text.joinWith_cons]
    refine ⟨_, c, _, rfl, ?_, plain⟩
    show (_ ++ [0x2E]).getLast? ≠ _
    rw [List.getLast?_concat]
    decide

end DatePattern
