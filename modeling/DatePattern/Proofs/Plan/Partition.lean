import DatePattern.Proofs.Plan.Context

/-!
# The partition of a plan

Coalescing cuts a list of resolutions into fragments. What it should come to can be said without
the way it goes about it: nothing is lost, a recipe stands alone, a native fragment holds
something and no recipe, and two native fragments never touch. These rules leave exactly one list
of fragments:

- `Fragment.Partition`: the rules;
- `Fragment.Partition.push`: a resolution put in front of a partition gives a partition again, so
  coalescing gives one;
- `Fragment.Partition.coalesce_eq`: every partition is what coalescing gives. A native fragment is
  taken off whole (`coalesce_append`), because whatever comes behind it starts with a recipe;
- `Fragment.Partition.native_parts`: the native fragments are the longest runs without a recipe,
  which is how fragments are counted.
-/

namespace DatePattern

/-- Whether a token is produced by a recipe. -/
def Resolution.isEmulated (r : Resolution) : Bool := r.manner = .emulated

theorem Resolution.isEmulated_iff (r : Resolution) :
    r.isEmulated = true ↔ r.manner = .emulated := decide_eq_true_iff

/-- The longest runs of resolutions without a recipe, in order: what stands between the recipes,
where something does. -/
def Resolution.nativeRuns (resolutions : List Resolution) : List (List Resolution) :=
  (resolutions.splitOnP isEmulated).filter (!·.isEmpty)

namespace Fragment

/-- The rules for cutting resolutions into fragments. -/
structure Partition (resolutions : List Resolution) (fragments : List Fragment) : Prop where
  /-- The parts of the fragments are the resolutions, in order. -/
  parts_eq : fragments.flatMap Fragment.parts = resolutions
  /-- An emulated fragment is a single resolution with a recipe. -/
  emulated_alone : ∀ fragment ∈ fragments, fragment.emulated = true →
    ∃ r, fragment.parts = [r] ∧ r.manner = .emulated
  /-- A native fragment has parts, and none of them has a recipe. -/
  native_plain : ∀ fragment ∈ fragments, fragment.emulated = false →
    fragment.parts ≠ [] ∧ ∀ r ∈ fragment.parts, r.manner ≠ .emulated
  /-- Of two neighbours, one is not native. -/
  apart : fragments.IsChain fun a b => ¬(a.emulated = false ∧ b.emulated = false)

/-- Fragments that do not start with a native one. -/
def StartsEmulated (fragments : List Fragment) : Prop :=
  ∀ fragment ∈ fragments.head?, fragment.emulated = true

theorem startsEmulated_nil : StartsEmulated [] := by
  intro fragment first
  cases first

/-! ## One resolution -/

section Push

variable {r : Resolution} {resolutions : List Resolution} {fragments : List Fragment}

theorem push_of_emulated (h : r.manner = .emulated) (fragments : List Fragment) :
    push r fragments = ⟨true, [r]⟩ :: fragments := if_pos h

theorem push_native (h : r.manner ≠ .emulated) (parts : List Resolution) (rest : List Fragment) :
    push r (⟨false, parts⟩ :: rest) = ⟨false, r :: parts⟩ :: rest := if_neg h

theorem push_of_startsEmulated (h : r.manner ≠ .emulated) (start : StartsEmulated fragments) :
    push r fragments = ⟨false, [r]⟩ :: fragments := by
  unfold push
  rw [if_neg h]
  split
  · next parts rest => exact absurd (start ⟨false, parts⟩ rfl) Bool.false_ne_true
  · rfl

/-- Fragments start with a native one, or they do not. -/
theorem native_or_startsEmulated (fragments : List Fragment) :
    (∃ parts rest, fragments = ⟨false, parts⟩ :: rest) ∨ StartsEmulated fragments := by
  rcases fragments with _ | ⟨⟨_ | _, parts⟩, rest⟩
  · exact .inr startsEmulated_nil
  · exact .inl ⟨parts, rest, rfl⟩
  · refine .inr fun fragment mem => ?_
    cases mem
    rfl

/-- **One step.** A resolution in front of a partition gives a partition. -/
theorem Partition.push (r : Resolution) (h : Partition resolutions fragments) :
    Partition (r :: resolutions) (push r fragments) := by
  have parts_eq : (Fragment.push r fragments).flatMap Fragment.parts = r :: resolutions := by
    rw [parts_push, h.parts_eq]
  by_cases hr : r.manner = .emulated
  · rw [push_of_emulated hr] at parts_eq ⊢
    refine ⟨parts_eq, ?_, ?_, ?_⟩
    · exact List.forall_mem_cons.mpr ⟨fun _ => ⟨r, rfl, hr⟩, h.emulated_alone⟩
    · exact List.forall_mem_cons.mpr ⟨fun native => Bool.noConfusion native, h.native_plain⟩
    · exact h.apart.cons fun _ _ native => Bool.noConfusion native.1
  · rcases native_or_startsEmulated fragments with ⟨parts, rest, rfl⟩ | start
    · -- the native fragment at the front grows, and its neighbour stays
      rw [push_native hr] at parts_eq ⊢
      have alone := (List.forall_mem_cons.mp h.emulated_alone).2
      obtain ⟨first, plain⟩ := List.forall_mem_cons.mp h.native_plain
      have apart := List.isChain_cons.mp h.apart
      refine ⟨parts_eq, ?_, ?_, ?_⟩
      · exact List.forall_mem_cons.mpr ⟨fun emulated => Bool.noConfusion emulated, alone⟩
      · refine List.forall_mem_cons.mpr ⟨fun _ => ⟨List.cons_ne_nil _ _, ?_⟩, plain⟩
        exact List.forall_mem_cons.mpr ⟨hr, (first rfl).2⟩
      · exact List.isChain_cons.mpr apart
    · rw [push_of_startsEmulated hr start] at parts_eq ⊢
      have alone := h.emulated_alone
      refine ⟨parts_eq, ?_, ?_, ?_⟩
      · exact List.forall_mem_cons.mpr ⟨fun emulated => Bool.noConfusion emulated, alone⟩
      · refine List.forall_mem_cons.mpr ⟨fun _ => ⟨List.cons_ne_nil _ _, ?_⟩, h.native_plain⟩
        exact fun s mem => List.mem_singleton.mp mem ▸ hr
      · refine h.apart.cons fun fragment first both => ?_
        rw [start fragment first] at both
        exact Bool.noConfusion both.2

end Push

/-- Coalescing obeys the rules. -/
theorem partition_coalesce (resolutions : List Resolution) :
    Partition resolutions (coalesce resolutions) := by
  induction resolutions with
  | nil => exact ⟨rfl, List.forall_mem_nil _, List.forall_mem_nil _, .nil⟩
  | cons r rest ih => exact ih.push r

/-! ## Whole fragments -/

/-- A run without recipes is one native fragment, when a recipe or nothing comes behind it. -/
theorem coalesce_append {run rest : List Resolution} (some : run ≠ [])
    (plain : ∀ r ∈ run, r.manner ≠ .emulated) (start : StartsEmulated (coalesce rest)) :
    coalesce (run ++ rest) = ⟨false, run⟩ :: coalesce rest := by
  induction run with
  | nil => exact absurd rfl some
  | cons r run ih =>
    obtain ⟨hr, others⟩ := List.forall_mem_cons.mp plain
    -- the last of the run starts the fragment, and those in front of it join
    show push r (coalesce (run ++ rest)) = _
    by_cases last : run = []
    · rw [last, List.nil_append, push_of_startsEmulated hr start]
    · rw [ih last others, push_native hr]

section Rules

variable {resolutions : List Resolution} {fragment : Fragment} {rest fragments : List Fragment}

theorem Partition.tail (h : Partition resolutions (fragment :: rest)) :
    Partition (rest.flatMap Fragment.parts) rest where
  parts_eq := rfl
  emulated_alone := (List.forall_mem_cons.mp h.emulated_alone).2
  native_plain := (List.forall_mem_cons.mp h.native_plain).2
  apart := (List.isChain_cons.mp h.apart).2

theorem Partition.eq_append (h : Partition resolutions (fragment :: rest)) :
    resolutions = fragment.parts ++ rest.flatMap Fragment.parts := by
  rw [← h.parts_eq, List.flatMap_cons]

/-- What a partition starts with: one recipe, or a run without any behind which no native
fragment comes. -/
theorem Partition.head_cases (h : Partition resolutions (fragment :: rest)) :
    (∃ r, fragment = ⟨true, [r]⟩ ∧ r.manner = .emulated) ∨
    (∃ run, fragment = ⟨false, run⟩ ∧ run ≠ [] ∧ (∀ r ∈ run, r.manner ≠ .emulated) ∧
      StartsEmulated rest) := by
  obtain ⟨emulated, parts⟩ := fragment
  cases emulated with
  | true =>
    obtain ⟨r, single, hr⟩ := h.emulated_alone _ List.mem_cons_self rfl
    exact .inl ⟨r, by rw [← single], hr⟩
  | false =>
    obtain ⟨some, plain⟩ := h.native_plain _ List.mem_cons_self rfl
    refine .inr ⟨parts, rfl, some, plain, fun next first => ?_⟩
    have apart := (List.isChain_cons.mp h.apart).1 next first
    exact Bool.not_eq_false _ ▸ fun native => apart ⟨rfl, native⟩

/-- **Every partition is the one that coalescing gives.** -/
theorem Partition.coalesce_eq (h : Partition resolutions fragments) :
    coalesce resolutions = fragments := by
  induction fragments generalizing resolutions with
  | nil =>
    rw [← h.parts_eq]
    rfl
  | cons fragment rest ih =>
    have others : coalesce (rest.flatMap Fragment.parts) = rest := ih h.tail
    rw [h.eq_append]
    rcases h.head_cases with ⟨r, rfl, hr⟩ | ⟨run, rfl, some, plain, start⟩
    · show Fragment.push r (coalesce (rest.flatMap Fragment.parts)) = _
      rw [others, push_of_emulated hr]
    · rw [coalesce_append some plain (others.symm ▸ start), others]

/-! ## Counting -/

/-- A recipe at the front belongs to no run. -/
theorem nativeRuns_cons {r : Resolution} (h : r.manner = .emulated) (rest : List Resolution) :
    Resolution.nativeRuns (r :: rest) = Resolution.nativeRuns rest := by
  have split := List.splitOnP_append_cons (p := Resolution.isEmulated) [] rest
    (r.isEmulated_iff.mpr h)
  rw [Resolution.nativeRuns, ← List.nil_append (r :: rest), split]
  rfl

/-- A run that a recipe or the end follows is one of the longest runs. -/
theorem nativeRuns_append {run : List Resolution} (some : run ≠ [])
    (plain : ∀ r ∈ run, r.manner ≠ .emulated) (h : Partition resolutions fragments)
    (start : StartsEmulated fragments) :
    Resolution.nativeRuns (run ++ resolutions) = run :: Resolution.nativeRuns resolutions := by
  have none : ∀ r ∈ run, r.isEmulated = false :=
    fun r mem => Bool.eq_false_iff.mpr fun emulated =>
      plain r mem (r.isEmulated_iff.mp emulated)
  have whole : run.splitOnP Resolution.isEmulated = [run] := List.splitOnP_eq_singleton none
  have kept : [run].filter (!·.isEmpty) = [run] := by simp [some]
  cases fragments with
  | nil =>
    rw [← h.parts_eq, List.flatMap_nil, List.append_nil, Resolution.nativeRuns, whole, kept]
    rfl
  | cons fragment rest =>
    rcases h.head_cases with ⟨r, rfl, hr⟩ | ⟨_, rfl, -⟩
    · rw [h.eq_append]
      show Resolution.nativeRuns (run ++ r :: rest.flatMap Fragment.parts) =
        run :: Resolution.nativeRuns (r :: rest.flatMap Fragment.parts)
      rw [nativeRuns_cons hr, Resolution.nativeRuns,
        List.splitOnP_append_cons run _ (r.isEmulated_iff.mpr hr), List.filter_append, whole, kept]
      rfl
    · exact absurd (start _ rfl) Bool.false_ne_true

/-- The native fragments are the longest runs without a recipe. -/
theorem Partition.native_parts (h : Partition resolutions fragments) :
    (fragments.filter (!·.emulated)).map Fragment.parts = Resolution.nativeRuns resolutions := by
  induction fragments generalizing resolutions with
  | nil =>
    rw [← h.parts_eq]
    rfl
  | cons fragment rest ih =>
    have others := ih h.tail
    rw [h.eq_append]
    rcases h.head_cases with ⟨r, rfl, hr⟩ | ⟨run, rfl, some, plain, start⟩
    · exact others.trans (nativeRuns_cons hr _).symm
    · rw [nativeRuns_append some plain h.tail start, ← others]
      rfl

/-- The emulated fragments are the resolutions with a recipe. -/
theorem Partition.emulated_parts (h : Partition resolutions fragments) :
    (fragments.filter (·.emulated)).map Fragment.parts =
      (resolutions.filter Resolution.isEmulated).map ([·]) := by
  induction fragments generalizing resolutions with
  | nil =>
    rw [← h.parts_eq]
    rfl
  | cons fragment rest ih =>
    have others := ih h.tail
    rw [h.eq_append, List.filter_append, List.map_append, ← others]
    rcases h.head_cases with ⟨r, rfl, hr⟩ | ⟨run, rfl, -, plain, -⟩
    · have kept : [r].filter Resolution.isEmulated = [r] := by
        rw [List.filter_singleton, r.isEmulated_iff.mpr hr]
        rfl
      rw [kept]
      rfl
    · have none : run.filter Resolution.isEmulated = [] :=
        List.filter_eq_nil_iff.mpr fun r mem emulated =>
          plain r mem (r.isEmulated_iff.mp emulated)
      rw [none]
      rfl

theorem Partition.length_eq (h : Partition resolutions fragments) :
    fragments.length =
      (Resolution.nativeRuns resolutions).length + resolutions.countP Resolution.isEmulated := by
  have native := congrArg List.length h.native_parts
  have emulated := congrArg List.length h.emulated_parts
  rw [List.length_map] at native
  rw [List.length_map, List.length_map] at emulated
  rw [List.length_eq_length_filter_add (·.emulated), native, emulated,
    List.countP_eq_length_filter, Nat.add_comm]

end Rules

end Fragment

/-! ## Formats without recipes -/

/-- Whether an engine needs a recipe for a token: the token is not escaped, and the engine's table
gives its character one. -/
def Engine.Emulates (engine : Engine) (token : Token) : Prop :=
  token.literal = false ∧ ∃ recipe, engine.capability? token.char = some (.emulated recipe)

theorem Engine.emulates_of_decided {engine : Engine} {token : Token}
    (h : (Resolution.decided engine token).manner = .emulated) : engine.Emulates token := by
  obtain ⟨unescaped, recipe, -, listed⟩ := Resolution.recipe?_decided h
  exact ⟨unescaped, recipe, listed⟩

/-- A format none of whose tokens needs a recipe is planned as one native fragment. -/
theorem plan_of_native {engine : Engine} {format : Text}
    (accepted : Pattern.validate format = .ok ()) (some : format ≠ [])
    (native : ∀ token ∈ Token.tokenize format, ¬engine.Emulates token) :
    plan engine.kind format =
      .ok [⟨false, (Token.tokenize format).map (Resolution.decided engine)⟩] := by
  have plain : ∀ r ∈ (Token.tokenize format).map (Resolution.decided engine),
      r.manner ≠ .emulated := by
    intro r mem
    obtain ⟨token, listed, rfl⟩ := List.mem_map.mp mem
    exact fun emulated => native token listed (Engine.emulates_of_decided emulated)
  have parts : (Token.tokenize format).map (Resolution.decided engine) ≠ [] := by
    intro none
    exact Fragment.coalesce_tokenize_ne_nil some engine (congrArg Fragment.coalesce none)
  have ends : Fragment.StartsEmulated (Fragment.coalesce []) := Fragment.startsEmulated_nil
  have whole := Fragment.coalesce_append parts plain ends
  rw [List.append_nil] at whole
  rw [plan_eq, accepted, whole]
  rfl

/-- **Coalescing gives the one partition there is.** The fragments of a list of resolutions are
those that obey the rules and no others. There are as many as there are longest runs without a
recipe and resolutions with one, together; and a format that is not empty and needs no recipe
compiles to one call of the date function, for every dialect of an engine and every subject. -/
theorem coalesce_unique_partition (resolutions : List Resolution) (fragments : List Fragment) :
    (fragments = Fragment.coalesce resolutions ↔ Fragment.Partition resolutions fragments) ∧
    (Fragment.coalesce resolutions).length =
      (Resolution.nativeRuns resolutions).length + resolutions.countP Resolution.isEmulated ∧
    ∀ (engine : Engine) (g : Grammar), g.kind = engine.kind →
      ∀ format : Text, Pattern.validate format = .ok () → format ≠ [] →
        (∀ token ∈ Token.tokenize format, ¬engine.Emulates token) →
        ∃ parts, plan g.kind format = .ok [⟨false, parts⟩] ∧ ∀ subject : SqlExpr,
          compile g subject format = .ok (Fragment.nativeCall g (subject.render g)
            (NativeFormat.ofParts g.kind parts)) := by
  have obeys := Fragment.partition_coalesce resolutions
  refine ⟨⟨?_, fun rules => rules.coalesce_eq.symm⟩, obeys.length_eq, ?_⟩
  · rintro rfl
    exact obeys
  · intro engine g kind format accepted some native
    have planned := plan_of_native accepted some native
    rw [← kind] at planned
    refine ⟨_, planned, fun subject => ?_⟩
    rw [compile, compileText, planned]
    rfl

/-- Recipes at the front, side by side and at the end, around two runs; and a format that SQLite
formats by itself in one call. -/
theorem coalesce_unique_partition_example :
    let part (manner : Manner) : Resolution := { manner, token := Token.plain 'x' 0 }
    let resolutions := [part .emulated, part .literal, part .native, part .emulated,
      part .emulated, part .unknown, part .emulated]
    let fragments : List Fragment := [⟨true, [part .emulated]⟩,
      ⟨false, [part .literal, part .native]⟩, ⟨true, [part .emulated]⟩,
      ⟨true, [part .emulated]⟩, ⟨false, [part .unknown]⟩, ⟨true, [part .emulated]⟩]
    Fragment.Partition resolutions fragments ∧
    fragments.length = (Resolution.nativeRuns resolutions).length + 4 ∧
    ∃ parts, plan Engine.sqlite.kind "Y-m-d \\D" = .ok [⟨false, parts⟩] ∧
      ∀ subject : SqlExpr, compile Engine.sqlite.grammar subject "Y-m-d \\D" =
        .ok (Fragment.nativeCall Engine.sqlite.grammar (subject.render Engine.sqlite.grammar)
          (NativeFormat.ofParts Engine.sqlite.kind parts)) := by
  intro part resolutions fragments
  obtain ⟨unique, count, single⟩ := coalesce_unique_partition resolutions fragments
  have computed : fragments = Fragment.coalesce resolutions := by decide
  have accepted : Pattern.validate "Y-m-d \\D" = .ok () := by decide
  have native : ∀ token ∈ Token.tokenize "Y-m-d \\D", ¬Engine.sqlite.Emulates token := by
    have decided : ∀ token ∈ Token.tokenize "Y-m-d \\D",
        (Resolution.decided .sqlite token).manner ≠ .emulated := by decide
    rintro token mem ⟨unescaped, recipe, listed⟩
    refine decided token mem ?_
    rw [Resolution.decided, unescaped, listed]
    rfl
  refine ⟨unique.mp computed, ?_, single .sqlite Engine.sqlite.grammar rfl _ accepted
    (by decide) native⟩
  rw [computed, count]
  rfl

end DatePattern
