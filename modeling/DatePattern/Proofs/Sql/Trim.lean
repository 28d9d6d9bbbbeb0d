import DatePattern.Proofs.Plan.Context
import DatePattern.Proofs.Plan.Sealed
import DatePattern.Proofs.Text.Case

/-!
# Trimming the front of a text

Taking characters off the front of a text is written in two ways. MySQL's
`trim(leading p from x)` removes the whole text `p` again and again; `ltrim(x, cs)` of the other
engines removes characters as long as they are among those of `cs`.

- `dropCopies`, `Trimming.apply`: the two ways;
- `Trimming.read`: what a call removes, and from which operand, by its text;
- `dropWhile_eq_dropCopies_iff`: the two ways agree on a text exactly when the characters in
  front of it are copies of the whole.

So all engines agree on every text exactly when a single character is to be trimmed
(`trims_agree_iff`).
-/

namespace DatePattern

/-! ## Two ways to trim -/

section

variable {α : Type} [DecidableEq α]

/-- A list without `p` at its front, as often as it stands there. -/
def dropCopies (p x : List α) : List α :=
  if p ≠ [] ∧ p.isPrefixOf x = true then dropCopies p (x.drop p.length) else x
termination_by x.length
decreasing_by
  rename_i h
  have some := List.length_pos_iff.mpr h.1
  have shorter := (List.isPrefixOf_iff_prefix.mp h.2).length_le
  rw [List.length_drop]
  omega

variable {p : List α}

theorem dropCopies_append (nonempty : p ≠ []) (x : List α) :
    dropCopies p (p ++ x) = dropCopies p x := by
  have front : p.isPrefixOf (p ++ x) = true :=
    List.isPrefixOf_iff_prefix.mpr (List.prefix_append p x)
  rw [dropCopies, if_pos ⟨nonempty, front⟩, List.drop_left]

theorem dropCopies_eq_self {x : List α} (h : ¬ p <+: x) : dropCopies p x = x := by
  rw [dropCopies, if_neg]
  rintro ⟨-, front⟩
  exact h (List.isPrefixOf_iff_prefix.mp front)

theorem dropCopies_copies (nonempty : p ≠ []) (n : Nat) (x : List α) :
    dropCopies p ((List.replicate n p).flatten ++ x) = dropCopies p x := by
  induction n with
  | zero => rfl
  | succ n ih =>
    rw [List.replicate_succ, List.flatten_cons, List.append_assoc, dropCopies_append nonempty, ih]

/-- Only copies are removed. -/
theorem exists_copies (p x : List α) : ∃ n, x = (List.replicate n p).flatten ++ dropCopies p x := by
  fun_induction dropCopies p x with
  | case1 x h ih =>
    obtain ⟨n, hn⟩ := ih
    obtain ⟨rest, rfl⟩ := List.isPrefixOf_iff_prefix.mp h.2
    refine ⟨n + 1, ?_⟩
    rw [List.drop_left] at hn ⊢
    rw [List.replicate_succ, List.flatten_cons, List.append_assoc, ← hn]
  | case2 x h => exact ⟨0, rfl⟩

theorem contains_of_mem_copies {n : Nat} {a : α} (mem : a ∈ (List.replicate n p).flatten) :
    p.contains a = true := by
  obtain ⟨copy, listed, mem⟩ := List.mem_flatten.mp mem
  rw [List.eq_of_mem_replicate listed] at mem
  exact List.contains_iff_mem.mpr mem

/-- Removing characters removes at least what removing copies does. -/
theorem exists_append_dropWhile (p x : List α) :
    ∃ front, dropCopies p x = front ++ x.dropWhile (p.contains ·) := by
  obtain ⟨n, hn⟩ := exists_copies p x
  have same : x.dropWhile (p.contains ·) = (dropCopies p x).dropWhile (p.contains ·) := by
    conv_lhs => rw [hn]
    exact List.dropWhile_append_of_pos fun a mem => contains_of_mem_copies mem
  exact ⟨_, by rw [same, List.takeWhile_append_dropWhile]⟩

/-- The two ways agree where the characters in front are copies of the whole. -/
theorem dropWhile_eq_dropCopies_iff (nonempty : p ≠ []) (x : List α) :
    x.dropWhile (p.contains ·) = dropCopies p x ↔
      ∃ n, x.takeWhile (p.contains ·) = (List.replicate n p).flatten := by
  have split : x.takeWhile (p.contains ·) ++ x.dropWhile (p.contains ·) = x :=
    List.takeWhile_append_dropWhile
  constructor
  · intro same
    obtain ⟨n, hn⟩ := exists_copies p x
    refine ⟨n, (List.append_left_inj (dropCopies p x)).mp ?_⟩
    rw [← hn, ← same, split]
  · rintro ⟨n, copies⟩
    have stops : ¬ p <+: x.dropWhile (p.contains ·) := by
      obtain ⟨a, rest, rfl⟩ := List.exists_cons_of_ne_nil nonempty
      rintro ⟨more, front⟩
      have other := List.head?_dropWhile_not ((a :: rest).contains ·) x
      rw [← front] at other
      simp at other
    rw [copies] at split
    conv_rhs => rw [← split]
    rw [dropCopies_copies nonempty, dropCopies_eq_self stops]

end

/-! ## Texts -/

namespace Text

theorem ofSymbols_append (a b : List Symbol) : ofSymbols (a ++ b) = ofSymbols a ++ ofSymbols b :=
  List.flatMap_append

theorem ofSymbols_eq_nil {symbols : List Symbol} (h : ofSymbols symbols = []) : symbols = [] := by
  cases symbols with
  | nil => rfl
  | cons symbol rest =>
    have bytes := (List.append_eq_nil_iff.mp h).1
    cases symbol with
    | stray b => cases bytes
    | char c =>
      have length := congrArg List.length bytes
      rw [Symbol.bytes, String.length_utf8EncodeChar] at length
      exact absurd length c.utf8Size_pos.ne'

theorem symbols_ne_nil {text : Text} (h : text ≠ []) : text.symbols ≠ [] := by
  intro none
  rw [← ofSymbols_symbols text, none] at h
  exact h rfl

/-- The first symbol of a text is also a text by itself. -/
theorem exists_symbols_eq_singleton {text : Text} {symbol : Symbol} {others : List Symbol}
    (h : text.symbols = symbol :: others) : ∃ x : Text, x.symbols = [symbol] := by
  induction text using Utf8.decode_induction with
  | nil => cases h
  | char c rest _ =>
    rw [symbols, Utf8.symbolsFrom_encode] at h
    obtain ⟨rfl, -⟩ := List.cons.inj h
    exact ⟨ofChars [c], symbols_ofChars [c]⟩
  | stray b rest stray _ =>
    -- what begins no character in front of more text begins none at the end
    have alone : Utf8.Stray b [] := fun c more front =>
      stray c (more ++ rest) (by rw [← List.append_assoc, ← front]; rfl)
    obtain ⟨_, read⟩ := (Utf8.stray_iff b rest).mp stray
    obtain ⟨_, readAlone⟩ := (Utf8.stray_iff b []).mp alone
    rw [symbols, Utf8.symbolsFrom, read, Utf8.eq_of_first_eq_stray read] at h
    obtain ⟨rfl, -⟩ := List.cons.inj h
    refine ⟨[b], ?_⟩
    rw [symbols, Utf8.symbolsFrom, readAlone, Utf8.eq_of_first_eq_stray readAlone]
    rfl

end Text

/-! ## Reading a call -/

/-- What a call takes off the front of a text. -/
inductive Trimming where
  /-- Copies of a whole text. -/
  | copies (text : Text)
  /-- The characters of a text, in any order. -/
  | characters (text : Text)
  deriving DecidableEq, Repr

namespace Trimming

/-- The text that remains. -/
def apply : Trimming → Text → Text
  | .copies text, x => .ofSymbols (dropCopies text.symbols x.symbols)
  | .characters text, x => .ofSymbols (x.symbols.dropWhile (text.symbols.contains ·))

/-- The text of a word that is one string literal. -/
def literal? (engine : Engine) (word : Text) : Option Text :=
  (readString engine.grammar.backslash word).bind fun read =>
    if read.2.isEmpty then some read.1 else none

/-- Reads what stands in the parentheses of `trim`: `leading`, a literal, `from` and the
operand. -/
def readLeading (engine : Engine) : List Text → Option (Trimming × List Text)
  | leading :: literal :: source :: operand =>
    if leading = "leading" ∧ source = "from" ∧
        operand.all (Scan.isOperandWord engine.lexicon) = true then
      (literal? engine literal).map fun text => (.copies text, operand)
    else none
  | _ => none

/-- Reads what stands in the parentheses of `ltrim`: the operand, a comma and a literal. -/
def readSet (engine : Engine) (words : List Text) : Option (Trimming × List Text) :=
  let operand := Scan.before "," words
  match Scan.behind "," words with
  | [literal] =>
    if operand.all (Scan.isOperandWord engine.lexicon) = true then
      (literal? engine literal).map fun text => (.characters text, operand)
    else none
  | _ => none

/-- Reads a call: what it takes off the front of which operand. -/
def read (engine : Engine) (sql : Text) : Option (Trimming × List Text) :=
  let name := sql.takeWhile (· != 0x28)
  let words := (Scan.unparen (sql.dropWhile (· != 0x28))).bind (Scan.words engine.lexicon)
  if engine = .mysql then if name = "trim" then words.bind (readLeading engine) else none
  else if name = "ltrim" then words.bind (readSet engine) else none

/-- The characters to be trimmed; none stand for one space. -/
def given (chars : Text) : Text := if chars.isEmpty then " " else chars

/-- What is written for an engine. -/
def written (chars : Text) (engine : Engine) : Trimming :=
  if engine = .mysql then .copies (given chars) else .characters (given chars)

theorem literal?_string (engine : Engine) (text : Text) :
    literal? engine (engine.grammar.string text) = some text := by
  have read : readString engine.grammar.backslash (engine.grammar.string text ++ [])
      = some (text, []) := readString_string engine.grammar text (by decide)
  rw [List.append_nil] at read
  rw [literal?, read]
  rfl

theorem words_string (engine : Engine) (text : Text) :
    Scan.words engine.lexicon (engine.grammar.string text)
      = some [engine.grammar.string text] := by
  refine Scan.words_solid ?_ (Scan.solid_string engine text 0)
  rw [Grammar.string_eq]
  exact List.cons_ne_nil _ _

variable {engine : Engine} {operand : Text} {ws : List Text}

/-- A call of a function whose name has no parenthesis. -/
theorem read_call {name inside : Text} (plain : name.all (· != 0x28) = true)
    (found : Scan.words engine.lexicon inside = some ws) :
    read engine (name ++ ("(" ++ inside ++ ")")) =
      if engine = .mysql then if name = "trim" then readLeading engine ws else none
      else if name = "ltrim" then readSet engine ws else none := by
  have span := Text.span_append plain ("(" ++ inside ++ ")") (by rintro b ⟨⟩; rfl)
  simp only [read, span, Scan.unparen_parens, Option.bind_some, found]

theorem readLeading_words (ok : Scan.AreOperand engine.lexicon ws) (text : Text) :
    readLeading engine (("leading" : Text) :: engine.grammar.string text :: ("from" : Text) :: ws)
      = some (.copies text, ws) := by
  rw [readLeading, if_pos ⟨rfl, rfl, ok.2⟩, literal?_string]
  rfl

theorem readSet_words (ok : Scan.AreOperand engine.lexicon ws) (text : Text) :
    readSet engine (ws ++ ("," : Text) :: [engine.grammar.string text])
      = some (.characters text, ws) := by
  have comma : ("," : Text) ∉ ws := Scan.not_mem_of_operands ok.2 (by cases engine <;> rfl)
  have span := Scan.span_word comma [engine.grammar.string text]
  simp only [readSet, span, ok.2, if_true, literal?_string, Option.map_some]

/-- What is written for an engine is read as its way to trim. -/
theorem read_ltrim (found : Scan.words engine.lexicon operand = some ws)
    (ok : Scan.AreOperand engine.lexicon ws) (chars : Text) :
    read engine (Sql.ltrim engine.grammar operand chars) = some (written chars engine, ws) := by
  have quoted := words_string engine (given chars)
  by_cases mysql : engine = .mysql
  · subst mysql
    have text : Sql.ltrim Engine.mysql.grammar operand chars
        = "trim" ++ ("(" ++ ("leading" ++ " " ++ (Engine.mysql.grammar.string (given chars) ++ " "
          ++ ("from" ++ " " ++ operand))) ++ ")") := by
      show ("trim(leading " ++ Engine.mysql.grammar.string (given chars) ++ " from " ++ operand
        ++ ")" : Text) = _
      simp only [List.append_assoc]
      rfl
    have leading : Scan.words Engine.mysql.lexicon "leading" = some [("leading" : Text)] := rfl
    have source : Scan.words Engine.mysql.lexicon "from" = some [("from" : Text)] := rfl
    have inside := Scan.words_append leading
      (Scan.words_append quoted (Scan.words_append source found))
    rw [text, read_call rfl inside, if_pos rfl, if_pos rfl]
    exact readLeading_words ok (given chars)
  · have text : Sql.ltrim engine.grammar operand chars
        = "ltrim" ++ ("(" ++ (operand ++ ", " ++ engine.grammar.string (given chars)) ++ ")") := by
      have other : Sql.ltrim engine.grammar operand chars
          = "ltrim(" ++ operand ++ ", " ++ engine.grammar.string (given chars) ++ ")" := by
        cases engine with
        | mysql => exact absurd rfl mysql
        | _ => rfl
      rw [other]
      simp only [List.append_assoc]
      rfl
    rw [text, read_call rfl (Scan.words_append_comma found quoted), if_neg mysql, if_pos rfl,
      written, if_neg mysql]
    exact readSet_words ok (given chars)

/-! ## Where the engines agree -/

theorem given_ne_nil (chars : Text) : given chars ≠ [] := by
  rw [given]
  split
  · exact List.cons_ne_nil _ _
  · next h => simpa using h

/-- Two ways to trim leave the same text where they leave the same symbols. -/
theorem apply_characters_eq_iff {text : Text} (nonempty : text ≠ []) (x : Text) :
    (characters text).apply x = (copies text).apply x ↔
      ∃ n, x.symbols.takeWhile (text.symbols.contains ·)
        = (List.replicate n text.symbols).flatten := by
  rw [← dropWhile_eq_dropCopies_iff (Text.symbols_ne_nil nonempty)]
  constructor
  · intro same
    obtain ⟨front, longer⟩ := exists_append_dropWhile text.symbols x.symbols
    have more : Text.ofSymbols front = [] := by
      rw [apply, apply, longer, Text.ofSymbols_append] at same
      exact List.self_eq_append_left.mp same
    rw [longer, Text.ofSymbols_eq_nil more, List.nil_append]
  · exact fun same => congrArg Text.ofSymbols same

/-- A single character is trimmed alike in both ways, several are not. -/
theorem apply_characters_eq_all_iff {text : Text} (nonempty : text ≠ []) :
    (∀ x, (characters text).apply x = (copies text).apply x) ↔ text.symbols.length = 1 := by
  simp only [apply_characters_eq_iff nonempty]
  constructor
  · intro all
    obtain ⟨first, others, cut⟩ := List.exists_cons_of_ne_nil (Text.symbols_ne_nil nonempty)
    -- the first of the characters, alone
    obtain ⟨x, alone⟩ := Text.exists_symbols_eq_singleton cut
    obtain ⟨n, copies⟩ := all x
    have product : 1 = n * (first :: others).length := by
      rw [alone, cut] at copies
      simpa using congrArg List.length copies
    rw [cut]
    exact Nat.eq_one_of_mul_eq_one_left product.symm
  · intro single x
    obtain ⟨symbol, only⟩ := List.length_eq_one_iff.mp single
    rw [only]
    refine ⟨(x.symbols.takeWhile ([symbol].contains ·)).length, ?_⟩
    rw [List.flatten_replicate_singleton]
    refine List.eq_replicate_of_mem fun b mem => ?_
    have listed := List.all_eq_true.mp List.all_takeWhile b mem
    simpa using listed

theorem written_of_ne {engine : Engine} (h : engine ≠ .mysql) (chars : Text) :
    written chars engine = .characters (given chars) := if_neg h

end Trimming

/-- **Where trimming means the same.** For an operand (`Expr.operand_render`) and the characters to
be trimmed, the SQL of each engine is read as a way to trim that operand. All engines but MySQL
leave the same of every text. They leave what MySQL does exactly when the characters at the front
of the text that are among the given ones are copies of all the given ones in order; and that is
so for every text exactly when a single character is given. -/
theorem trims_agree_iff (e : SqlExpr) (chars : Text)
    (operand : ∀ engine : Engine, Scan.IsOperand engine (e.render engine.grammar)) :
    ∃ trimming : Engine → Trimming,
      (∀ engine : Engine, ∃ sql words, (Expr.ltrim e chars).sql engine.grammar = .ok sql ∧
        Scan.words engine.lexicon (e.render engine.grammar) = some words ∧
        Trimming.read engine sql = some (trimming engine, words)) ∧
      (∀ a b : Engine, a ≠ .mysql → b ≠ .mysql →
        ∀ x, (trimming a).apply x = (trimming b).apply x) ∧
      (∀ a : Engine, a ≠ .mysql → ∀ x, (trimming a).apply x = (trimming .mysql).apply x ↔
        ∃ n, x.symbols.takeWhile ((Trimming.given chars).symbols.contains ·)
          = (List.replicate n (Trimming.given chars).symbols).flatten) ∧
      ((∀ (a b : Engine) (x : Text), (trimming a).apply x = (trimming b).apply x) ↔
        (Trimming.given chars).symbols.length = 1) := by
  have nonempty := Trimming.given_ne_nil chars
  refine ⟨Trimming.written chars, fun engine => ?_, ?_, ?_, ?_⟩
  · obtain ⟨words, found, ok⟩ := (operand engine).reads
    have valid : engine.grammar.kind.isValid = true := by cases engine <;> rfl
    exact ⟨_, words, Expr.sql_eq valid _, found, Trimming.read_ltrim found ok chars⟩
  · intro a b ha hb x
    rw [Trimming.written_of_ne ha, Trimming.written_of_ne hb]
  · intro a ha x
    rw [Trimming.written_of_ne ha]
    exact Trimming.apply_characters_eq_iff nonempty x
  · rw [← Trimming.apply_characters_eq_all_iff nonempty]
    constructor
    · exact fun all x => all .sqlite .mysql x
    · intro all a b x
      have alike : ∀ engine : Engine, (Trimming.written chars engine).apply x
          = (Trimming.characters (Trimming.given chars)).apply x := by
        intro engine
        by_cases mysql : engine = .mysql
        · rw [mysql]
          exact (all x).symm
        · rw [Trimming.written_of_ne mysql]
      rw [alike a, alike b]

/-- A character of two bytes is trimmed alike everywhere. -/
theorem trims_agree_iff_accent :
    let e : SqlExpr := .column "d"
    (∀ engine : Engine, Scan.IsOperand engine (e.render engine.grammar)) ∧
      ∃ trimming : Engine → Trimming,
        (∀ engine : Engine, ∃ sql words, (Expr.ltrim e "é").sql engine.grammar = .ok sql ∧
          Trimming.read engine sql = some (trimming engine, words)) ∧
        ∀ (a b : Engine) (x : Text), (trimming a).apply x = (trimming b).apply x := by
  intro e
  have operand : ∀ engine : Engine, Scan.IsOperand engine (e.render engine.grammar) :=
    fun engine => Expr.operand_render e trivial
  obtain ⟨trimming, read, -, -, agree⟩ := trims_agree_iff e "é" operand
  refine ⟨operand, trimming, fun engine => ?_, agree.mpr (by decide)⟩
  obtain ⟨sql, words, rendered, -, found⟩ := read engine
  exact ⟨sql, words, rendered, found⟩

/-- A zero in front of no space stays on MySQL, where a zero and a space are one text. -/
theorem trims_differ_on_two_characters :
    let e : SqlExpr := .ltrim (.column "d") "0 "
    e.sql Engine.mysql.grammar = .ok "trim(leading '0 ' from `d`)" ∧
      e.sql Engine.sqlite.grammar = .ok "ltrim(\"d\", '0 ')" ∧
      Trimming.read .mysql "trim(leading '0 ' from `d`)"
        = some (.copies "0 ", [("`d`" : Text)]) ∧
      Trimming.read .sqlite "ltrim(\"d\", '0 ')"
        = some (.characters "0 ", [("\"d\"" : Text)]) ∧
      (Trimming.copies "0 ").apply "0" = "0" ∧ (Trimming.characters "0 ").apply "0" = [] := by
  intro e
  have kept : dropCopies (Text.symbols "0 ") (Text.symbols "0") = Text.symbols "0" :=
    dropCopies_eq_self (by decide)
  refine ⟨(Expr.sql_eq rfl e).trans (congrArg Except.ok ?_),
    (Expr.sql_eq rfl e).trans (congrArg Except.ok ?_), ?_, ?_, ?_, ?_⟩
  · decide
  · decide
  · decide
  · decide
  · rw [Trimming.apply, kept, Text.ofSymbols_symbols]
  · decide

end DatePattern
