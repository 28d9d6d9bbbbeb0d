import DatePattern.Cli.Run
import DatePattern.Proofs.Dialect.Names
import DatePattern.Proofs.Text.Order

/-!
# A checked configuration can be used

`Config.validate` reads the names of dialects in one way and looks at the targets in the order of
their names; a command reads the names in another way, and a connection is made with the type in
lower case. What was checked is what is used:

- `Config.parseDialects_spec`: names that can be read give each of their engines once;
- `Registry.selectFrom_standard`: a selection goes along with that reading, name by name;
- `Config.mem_sortedTargets`: sorting loses no target, so each of them was looked at;
- `validated_config_usable`: the dialects and targets of a checked configuration are all found.
-/

namespace DatePattern

namespace Config

theorem mem_sortedTargets (config : Config) (entry : Text × ConnectionSettings) :
    entry ∈ config.sortedTargets ↔ entry ∈ config.targets :=
  (Text.perm_sortBy _ _).mem_iff

/-! ## Dialects -/

theorem validateDialects_eq_ok_iff (names : List Text) :
    validateDialects names = .ok () ↔ ∀ name ∈ names, ∃ engine, Engine.parse name = .ok engine := by
  induction names with
  | nil => simp [validateDialects]
  | cons name rest ih =>
    rw [validateDialects, List.forall_mem_cons]
    cases Engine.parse name with
    | ok engine => simpa using ih
    | error e => simp

/-- One name of a reading: its engine comes first, unless it was met before. -/
theorem parseDialects_cons {seen : List Engine} {name : Text} {engine : Engine} {rest : List Text}
    (parsed : Engine.parse name = .ok engine) :
    parseDialects seen (name :: rest) =
      if engine ∈ seen then parseDialects seen rest
      else (parseDialects (engine :: seen) rest).map (engine :: ·) := by
  rw [parseDialects, parsed]
  show (if seen.contains engine = true then _ else _) = _
  refine if_congr List.contains_iff_mem rfl ?_
  cases parseDialects (engine :: seen) rest <;> rfl

/-- Names that can be read give their engines, each once and none that was met before. -/
theorem parseDialects_spec (seen : List Engine) (names : List Text)
    (readable : ∀ name ∈ names, ∃ engine, Engine.parse name = .ok engine) :
    ∃ engines, parseDialects seen names = .ok engines ∧ engines.Nodup ∧
      ∀ engine, engine ∈ engines ↔
        engine ∉ seen ∧ ∃ name ∈ names, Engine.parse name = .ok engine := by
  induction names generalizing seen with
  | nil => exact ⟨[], rfl, List.nodup_nil, by simp⟩
  | cons name rest ih =>
    obtain ⟨⟨engine, parsed⟩, readableRest⟩ := List.forall_mem_cons.mp readable
    have named : ∀ other, (∃ n ∈ name :: rest, Engine.parse n = .ok other) ↔
        engine = other ∨ ∃ n ∈ rest, Engine.parse n = .ok other := by
      intro other
      simp [parsed]
    rw [parseDialects_cons parsed]
    -- an engine met before adds nothing; a new one comes first and counts as met from here on
    by_cases met : engine ∈ seen
    · obtain ⟨engines, found, distinct, mem⟩ := ih seen readableRest
      refine ⟨engines, by rw [if_pos met, found], distinct, fun other => ?_⟩
      rw [mem, named]
      constructor
      · exact fun h => ⟨h.1, .inr h.2⟩
      · rintro ⟨fresh, rfl | later⟩
        · exact absurd met fresh
        · exact ⟨fresh, later⟩
    · obtain ⟨engines, found, distinct, mem⟩ := ih (engine :: seen) readableRest
      refine ⟨engine :: engines, by rw [if_neg met, found]; rfl, ?_, fun other => ?_⟩
      · refine List.nodup_cons.mpr ⟨fun later => ?_, distinct⟩
        exact ((mem engine).mp later).1 List.mem_cons_self
      · rw [List.mem_cons, mem, named, List.mem_cons, not_or]
        constructor
        · rintro (rfl | ⟨⟨-, fresh⟩, later⟩)
          · exact ⟨met, .inl rfl⟩
          · exact ⟨fresh, .inr later⟩
        · rintro ⟨fresh, rfl | later⟩
          · exact .inl rfl
          · by_cases same : other = engine
            · exact .inl same
            · exact .inr ⟨⟨same, fresh⟩, later⟩

end Config

/-- A selection of dialects goes along with the reading of their engines: the one leaves out
grammars it has met, the other engines. -/
theorem Registry.selectFrom_standard {seen engines : List Engine} {names : List Text}
    (readable : ∀ name ∈ names, ∃ engine, Engine.parse name = .ok engine)
    (parsed : Config.parseDialects seen names = .ok engines) :
    standard.selectFrom (seen.map Engine.grammar) names = .ok (engines.map Engine.grammar) := by
  induction names generalizing seen engines with
  | nil =>
    cases parsed
    rfl
  | cons name rest ih =>
    obtain ⟨⟨engine, one⟩, readableRest⟩ := List.forall_mem_cons.mp readable
    rw [Config.parseDialects_cons one] at parsed
    rw [selectFrom_cons one]
    by_cases met : engine ∈ seen
    · rw [if_pos met] at parsed ⊢
      exact ih readableRest parsed
    · rw [if_neg met] at parsed ⊢
      obtain ⟨others, found, -⟩ := Config.parseDialects_spec (engine :: seen) rest readableRest
      rw [found] at parsed
      cases parsed
      rw [ih readableRest found]
      rfl

/-! ## Targets -/

namespace Config

theorem validateTargets_of_mem {adapters : Adapters} {targets : List (Text × ConnectionSettings)}
    (checked : validateTargets adapters targets = .ok ()) {entry : Text × ConnectionSettings}
    (mem : entry ∈ targets) : validateTarget adapters entry.2 = .ok () := by
  induction targets with
  | nil => cases mem
  | cons first rest ih =>
    rw [validateTargets] at checked
    split at checked
    · next passed =>
      rcases List.mem_cons.mp mem with rfl | later
      · exact passed
      · exact ih checked later
    · cases checked

/-- A target that was checked has an adapter under the type it is connected with. -/
theorem find_connection {target : ConnectionSettings}
    (checked : validateTarget Adapters.standard target = .ok ()) :
    ∃ g, Adapters.standard.find (connection target).type = .ok g := by
  have registered : Adapters.standard.isRegistered target.type.lower = true := by
    unfold validateTarget at checked
    split at checked
    · cases checked
    · split at checked
      · assumption
      · cases checked
  obtain ⟨g, found⟩ := Option.isSome_iff_exists.mp registered
  have named : target.type.lower.isEmpty = false := by
    rw [List.isEmpty_eq_false_iff]
    intro empty
    rw [empty] at found
    cases found
  refine ⟨g, ?_⟩
  show Adapters.standard.find target.type.lower = .ok g
  rw [Adapters.find, named, if_neg Bool.false_ne_true, found]

/-! ## The whole check -/

/-- What a configuration that passes the check is known to have. -/
theorem validate_eq_ok {adapters : Adapters} {config : Config}
    (checked : validate adapters config = .ok ()) :
    config.dialects ≠ [] ∧ (∀ name ∈ config.dialects, ∃ engine, Engine.parse name = .ok engine) ∧
      ∀ entry ∈ config.targets, validateTarget adapters entry.2 = .ok () := by
  unfold validate at checked
  dsimp only at checked
  -- the output mode, the level, the presence of a dialect, the dialects: each fault ends the check
  by_cases output : (!outputs.contains config.output) = true
  · rw [if_pos output] at checked
    cases checked
  rw [if_neg output] at checked
  cases level : Log.Level.parse config.logLevel with
  | error e =>
    rw [level] at checked
    cases checked
  | ok l =>
    rw [level] at checked
    change (if config.dialects.isEmpty = true then _ else _) = _ at checked
    by_cases none : config.dialects.isEmpty = true
    · rw [if_pos none] at checked
      cases checked
    rw [if_neg none] at checked
    cases dialects : validateDialects config.dialects with
    | error e =>
      rw [dialects] at checked
      cases checked
    | ok u =>
      rw [dialects] at checked
      refine ⟨mt List.isEmpty_iff.mpr none, (validateDialects_eq_ok_iff _).mp dialects, ?_⟩
      intro entry mem
      exact validateTargets_of_mem checked ((mem_sortedTargets config entry).mpr mem)

end Config

/-- **What is checked can be used.** A name finds a registered dialect of some number exactly when
it is read as the name of an engine of that number. So, when a configuration passes the check and
a command names no dialects of its own, the command works on at least one dialect; their numbers
are those of the engines that the configuration names, in the same order, each once. And every
target of the configuration has an adapter. -/
theorem validated_config_usable :
    (∀ (name : Text) (kind : Kind),
      (∃ g, Registry.standard.lookup name = .ok g ∧ g.kind = kind) ↔
        ∃ engine, Engine.parse name = .ok engine ∧ engine.kind = kind) ∧
    ∀ job : Cli.Job, Config.validate Adapters.standard job.config = .ok () →
      (job.arguments.isSet "dialect" = false →
        ∃ dialects engines, job.dialects = .ok dialects ∧ dialects ≠ [] ∧
          job.config.engines = .ok engines ∧
          dialects.map Grammar.kind = engines.map Engine.kind ∧
          (dialects.map Grammar.kind).Nodup ∧
          ∀ engine, engine ∈ engines ↔
            ∃ name ∈ job.config.dialects, Engine.parse name = .ok engine) ∧
      ∀ name target, (name, target) ∈ job.config.targets →
        ∃ g, Adapters.standard.find (Config.connection target).type = .ok g := by
  refine ⟨fun name kind => ?_, fun job checked => ?_⟩
  · simp only [Registry.lookup_eq_ok_iff]
    constructor
    · rintro ⟨_, ⟨engine, parsed, rfl⟩, rfl⟩
      exact ⟨engine, parsed, engine.kind_grammar.symm⟩
    · rintro ⟨engine, parsed, rfl⟩
      exact ⟨engine.grammar, ⟨engine, parsed, rfl⟩, engine.kind_grammar⟩
  · obtain ⟨given, readable, targets⟩ := Config.validate_eq_ok checked
    refine ⟨fun unset => ?_, fun name target mem => Config.find_connection (targets _ mem)⟩
    obtain ⟨engines, parsed, distinct, mem⟩ :=
      Config.parseDialects_spec [] job.config.dialects readable
    have kinds : (engines.map Engine.grammar).map Grammar.kind = engines.map Engine.kind := by
      rw [List.map_map]
      exact List.map_congr_left fun engine _ => engine.kind_grammar
    refine ⟨engines.map Engine.grammar, engines, ?_, ?_, parsed, kinds, ?_, ?_⟩
    · have selected := Registry.selectFrom_standard readable parsed
      rw [Cli.Job.dialects, unset, if_neg Bool.false_ne_true, Registry.select_of_ne_nil _ given]
      exact selected
    · obtain ⟨name, rest, split⟩ := List.exists_cons_of_ne_nil given
      have first : name ∈ job.config.dialects := split ▸ List.mem_cons_self
      obtain ⟨engine, one⟩ := readable name first
      have found := (mem engine).mpr ⟨List.not_mem_nil, name, first, one⟩
      exact List.ne_nil_of_mem (List.mem_map_of_mem found)
    · rw [kinds]
      exact distinct.map Engine.kind_injective
    · intro engine
      rw [mem]
      exact and_iff_right List.not_mem_nil

/-- A configuration whose names are in mixed case, have white space around them or are aliases that
no dialect is registered under. Two of its three names are of one engine. -/
def Config.spelled : Config :=
  { Config.default with
    dialects := [" PGX\t", "SqLite3", "postgresql"]
    targets := [("main", { type := "MariaDB" })] }

theorem validated_config_usable_spelled :
    Config.validate Adapters.standard Config.spelled = .ok () ∧
      (∃ dialects, Cli.Job.dialects ⟨{}, Config.spelled, {}⟩ = .ok dialects ∧
        dialects.map Grammar.kind = [Engine.postgres, Engine.sqlite].map Engine.kind) ∧
      ∃ g, Adapters.standard.find "mariadb" = .ok g := by
  have checked : Config.validate Adapters.standard Config.spelled = .ok () := by decide
  have engines : Config.spelled.engines = .ok [.postgres, .sqlite] := by decide
  obtain ⟨-, usable⟩ := validated_config_usable
  obtain ⟨dialects, targets⟩ := usable ⟨{}, Config.spelled, {}⟩ checked
  obtain ⟨found, parsed, selected, -, same, kinds, -⟩ := dialects rfl
  obtain rfl := Except.ok.inj (engines.symm.trans same)
  exact ⟨checked, ⟨found, selected, kinds⟩, targets "main" _ List.mem_cons_self⟩

end DatePattern
