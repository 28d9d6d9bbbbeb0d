import DatePattern.Dialect.Registry
import DatePattern.Proofs.Plan.Stages
import DatePattern.Proofs.Text.Case

/-!
# Names of dialects

A dialect is found by its name in two ways: in the registry, which folds case and falls back on
the table of aliases, and in that table itself, which also takes white space off. For the four
registered dialects the two ways are one:

- `Registry.lookup_standard`: the registry finds the grammar of the engine that the table names;
- `Registry.selectFrom_cons`: leaving out repeated grammars is leaving out repeated engines;
- `Registry.select_names`: distinct dialects are selected by their own names.
-/

namespace DatePattern

namespace Engine

theorem kind_injective : Function.Injective kind := by
  intro a b h
  cases a <;> cases b <;> first | rfl | exact absurd h (by decide)

@[simp] theorem kind_grammar (engine : Engine) : engine.grammar.kind = engine.kind := by
  cases engine <;> rfl

theorem isValid_grammar (engine : Engine) : engine.grammar.kind.isValid = true := by
  cases engine <;> rfl

@[simp] theorem name_grammar (engine : Engine) : engine.grammar.name = engine.name := by
  cases engine <;> rfl

theorem grammar_injective : Function.Injective grammar := by
  intro a b h
  refine kind_injective ?_
  rw [← kind_grammar, h, kind_grammar]

@[simp] theorem parse_name (engine : Engine) : parse engine.name = .ok engine := by
  cases engine <;> rfl

end Engine

namespace Registry

/-! ## One name -/

/-- Every registered name is an alias of the engine whose grammar it is registered for. -/
theorem alias_of_registered : ∀ entry ∈ standard.names,
    (Engine.aliases.lookup entry.1).map Engine.grammar = some entry.2 := by
  decide

theorem isBlank_of_registered : ∀ entry ∈ standard.names, ∀ c ∈ entry.1.chars,
    CharClass.isBlank c = false := by
  have none : ∀ entry ∈ standard.names, entry.1.chars.any CharClass.isBlank = false := by decide
  intro entry mem c char
  exact Bool.eq_false_iff.mpr (List.any_eq_false.mp (none entry mem) c char)

@[simp] theorem ofKind?_standard (engine : Engine) :
    standard.ofKind? engine.kind = some engine.grammar := by
  cases engine <;> rfl

/-- A name that is registered is read as an alias of the same engine. The table of aliases
trims the name first, but a name that folds to a registered one has nothing to trim. -/
theorem parse_of_get? {name : Text} {g : Grammar} (h : standard.get? name = some g) :
    ∃ engine, Engine.parse name = .ok engine ∧ engine.grammar = g := by
  obtain ⟨before, after, split, -⟩ := List.lookup_eq_some_iff.mp h
  have mem : (name.lower, g) ∈ standard.names := by
    rw [split]
    exact List.mem_append_right before List.mem_cons_self
  have untrimmed : name.trim = name := Text.trim_of_lower (isBlank_of_registered _ mem)
  obtain ⟨engine, found, rfl⟩ := Option.map_eq_some_iff.mp (alias_of_registered _ mem)
  refine ⟨engine, ?_, rfl⟩
  rw [Engine.parse, untrimmed, found]

/-- **The two ways of reading a name agree**: the registry finds the grammar of the engine that
the name is an alias of. They report an empty name differently, and nothing else. -/
theorem lookup_standard (name : Text) :
    standard.lookup name = match Engine.parse name with
      | .ok engine => .ok engine.grammar
      | .error e => .error (if name.isEmpty then .required else e) := by
  unfold lookup
  by_cases empty : name.isEmpty = true
  · rw [if_pos empty, List.isEmpty_iff.mp empty]
    rfl
  · rw [if_neg empty]
    cases found : standard.get? name with
    | some g =>
      obtain ⟨engine, parsed, rfl⟩ := parse_of_get? found
      rw [parsed]
    | none =>
      cases Engine.parse name with
      | ok engine => simp
      | error e => simp [empty]

theorem lookup_of_parse {name : Text} {engine : Engine} (h : Engine.parse name = .ok engine) :
    standard.lookup name = .ok engine.grammar := by
  rw [lookup_standard, h]

theorem lookup_eq_ok_iff (name : Text) (g : Grammar) :
    standard.lookup name = .ok g ↔
      ∃ engine, Engine.parse name = .ok engine ∧ engine.grammar = g := by
  rw [lookup_standard]
  cases Engine.parse name with
  | ok engine => simp
  | error e => simp

/-! ## Several names -/

/-- Grammars met before are those of the engines met before. -/
theorem contains_grammar (seen : List Engine) (engine : Engine) :
    (seen.map Engine.grammar).contains engine.grammar = seen.contains engine := by
  rw [Bool.eq_iff_iff, List.contains_iff_mem, List.contains_iff_mem,
    List.mem_map_of_injective Engine.grammar_injective]

/-- One name of a selection: its grammar comes first, unless it was met before. -/
theorem selectFrom_cons {seen : List Engine} {name : Text} {engine : Engine} {rest : List Text}
    (parsed : Engine.parse name = .ok engine) :
    standard.selectFrom (seen.map Engine.grammar) (name :: rest) =
      if engine ∈ seen then standard.selectFrom (seen.map Engine.grammar) rest
      else (standard.selectFrom ((engine :: seen).map Engine.grammar) rest).map
        (engine.grammar :: ·) := by
  rw [selectFrom, lookup_of_parse parsed]
  show (if (seen.map Engine.grammar).contains engine.grammar = true then _ else _) = _
  rw [contains_grammar]
  refine if_congr List.contains_iff_mem rfl ?_
  rw [List.map_cons]
  cases standard.selectFrom (engine.grammar :: seen.map Engine.grammar) rest <;> rfl

/-- Distinct dialects are selected by their own names, in order. `seen` are engines met before,
none of which comes again. -/
theorem selectFrom_names (seen engines : List Engine) (distinct : engines.Nodup)
    (fresh : ∀ engine ∈ engines, engine ∉ seen) :
    standard.selectFrom (seen.map Engine.grammar) (engines.map Engine.name)
      = .ok (engines.map Engine.grammar) := by
  induction engines generalizing seen with
  | nil => rfl
  | cons engine rest ih =>
    obtain ⟨notLater, distinctRest⟩ := List.nodup_cons.mp distinct
    obtain ⟨notSeen, freshRest⟩ := List.forall_mem_cons.mp fresh
    -- the other engines stay fresh when this one counts as met
    have freshLater : ∀ other ∈ rest, other ∉ engine :: seen := by
      intro other mem
      rw [List.mem_cons, not_or]
      exact ⟨fun same => notLater (same ▸ mem), freshRest other mem⟩
    rw [List.map_cons, selectFrom_cons engine.parse_name, if_neg notSeen,
      ih _ distinctRest freshLater]
    rfl

theorem select_of_ne_nil (registry : Registry) {names : List Text} (given : names ≠ []) :
    registry.select names = registry.selectFrom [] names := by
  rw [select, List.isEmpty_eq_false_iff.mpr given, if_neg Bool.false_ne_true]

/-- Registered dialects are those of engines. -/
theorem exists_engines {dialects : List Grammar}
    (registered : ∀ g ∈ dialects, ∃ name, standard.get? name = some g) :
    ∃ engines : List Engine, dialects = engines.map Engine.grammar := by
  induction dialects with
  | nil => exact ⟨[], rfl⟩
  | cons g rest ih =>
    obtain ⟨⟨name, found⟩, others⟩ := List.forall_mem_cons.mp registered
    obtain ⟨engine, -, rfl⟩ := parse_of_get? found
    obtain ⟨engines, rfl⟩ := ih others
    exact ⟨engine :: engines, rfl⟩

theorem select_names {engines : List Engine} (given : engines ≠ []) (distinct : engines.Nodup) :
    standard.select (engines.map Engine.name) = .ok (engines.map Engine.grammar) := by
  rw [select_of_ne_nil _ (mt List.map_eq_nil_iff.mp given)]
  exact selectFrom_names [] engines distinct fun _ _ => List.not_mem_nil

end Registry

end DatePattern
