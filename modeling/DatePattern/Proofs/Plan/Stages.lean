import DatePattern.Plan.Compile
import DatePattern.Proofs.Text.Utf8
import DatePattern.Reference.Render

/-!
# The stages of a compilation

`explain`, `plan` and `compile` are written as sequences of steps that may fail. Here each is
given as one equation over `Pattern.validate`, so that later proofs never open the steps:

- `Resolution.decided`: the resolution of an accepted token, as a total function;
- `Resolution.resolveAll_eq`: resolving fails at the first token with a fault, and otherwise
  decides every token by itself;
- `explain_eq`, `plan_eq`, `compileText_eq`: for the dialect of an engine, a format is rejected
  with the error of `Pattern.validate`, and every accepted format goes through;
- `Fragment.parts_coalesce`, `Fragment.groupOf_coalesce`: coalescing only puts brackets around
  the resolutions, one with a recipe standing alone.
-/

namespace DatePattern

/-! ## Tokens -/

namespace Token

@[simp] theorem char_plain (c : Char) (pos : Nat) : (plain c pos).char = c := by
  rw [Token.char, plain, Text.chars_ofChar, List.headD_cons]

end Token

/-! ## Engines -/

@[simp] theorem Engine.engine?_kind (engine : Engine) : engine.kind.engine? = some engine := by
  cases engine <;> rfl

/-- A valid dialect number is the number of an engine. -/
theorem Kind.eq_kind_of_isValid {kind : Kind} (valid : kind.isValid = true) :
    ∃ engine : Engine, kind = engine.kind := by
  obtain ⟨engine, found⟩ := Option.isSome_iff_exists.mp valid
  have h := List.find?_some found
  exact ⟨engine, (of_decide_eq_true h).symm⟩

@[simp] theorem Engine.requireEngine_kind (engine : Engine) :
    engine.kind.requireEngine = .ok engine := by
  rw [Kind.requireEngine, Engine.engine?_kind]

/-- What an engine does with a character stands in its table. -/
theorem Engine.mem_table_of_capability? {engine : Engine} {c : Char} {capability : Capability}
    (h : engine.capability? c = some capability) : (c, capability) ∈ engine.table := by
  obtain ⟨before, after, split, -⟩ := List.lookup_eq_some_iff.mp h
  rw [split]
  exact List.mem_append_right before List.mem_cons_self

/-! ## Resolutions -/

namespace Resolution

/-- The resolution of a token that has no fault. -/
def decided (engine : Engine) (token : Token) : Resolution :=
  if token.literal then { manner := .literal, token }
  else ofCapability? token (engine.capability? token.char)

/-- One token: its fault, or the decision. -/
theorem resolve_eq (engine : Engine) (token : Token) :
    resolve engine token = match Pattern.fault? token with
      | some e => .error e
      | none => .ok (decided engine token) := by
  unfold resolve Pattern.fault? decided
  cases token.literal with
  | true => rfl
  | false => cases hu : Charset.isUnsupported token.char <;> simp

/-- A list of tokens: the first fault, or every decision. -/
theorem resolveAll_eq (engine : Engine) (tokens : List Token) :
    resolveAll engine tokens = match tokens.findSome? Pattern.fault? with
      | some e => .error e
      | none => .ok (tokens.map (decided engine)) := by
  induction tokens with
  | nil => rfl
  | cons token rest ih =>
    rw [resolveAll, resolve_eq, ih, List.findSome?_cons]
    cases Pattern.fault? token with
    | some e => rfl
    | none => cases rest.findSome? Pattern.fault? <;> rfl

end Resolution

theorem Engine.resolve_kind (engine : Engine) (token : Token) :
    engine.kind.resolve token = (Resolution.resolve engine token).mapError .pattern := by
  rw [Kind.resolve, Engine.requireEngine_kind]
  rfl

/-- Resolving for a dialect is resolving on its engine. -/
theorem Engine.resolveAll_kind (engine : Engine) (tokens : List Token) :
    engine.kind.resolveAll tokens = (Resolution.resolveAll engine tokens).mapError .pattern := by
  induction tokens with
  | nil => rfl
  | cons token rest ih =>
    rw [Kind.resolveAll, engine.resolve_kind, ih, Resolution.resolveAll]
    cases Resolution.resolve engine token with
    | error e => rfl
    | ok r => cases Resolution.resolveAll engine rest <;> rfl

namespace Resolution

@[simp] theorem token_decided (engine : Engine) (token : Token) :
    (decided engine token).token = token := by
  unfold decided
  split
  · rfl
  · unfold ofCapability?
    split <;> rfl

/-- A token that follows a recipe follows one of the engine's table. -/
theorem recipe?_decided {engine : Engine} {token : Token}
    (h : (decided engine token).manner = .emulated) :
    token.literal = false ∧ ∃ recipe, (decided engine token).recipe? = some recipe ∧
      engine.capability? token.char = some (.emulated recipe) := by
  unfold decided at *
  cases hl : token.literal with
  | true => simp [hl] at h
  | false =>
    rw [hl] at h
    cases hc : engine.capability? token.char with
    | none => simp [hc, ofCapability?] at h
    | some capability =>
      cases capability with
      | native specifier => simp [hc, ofCapability?] at h
      | emulated recipe => exact ⟨rfl, recipe, rfl, rfl⟩

end Resolution

/-! ## Fragments -/

namespace Fragment

/-- What is known of a fragment of given resolutions: it is one of them with a recipe, or holds
only such as have none. -/
def GroupOf (resolutions : List Resolution) (fragment : Fragment) : Prop :=
  (fragment.emulated = true ∧
    ∃ r ∈ resolutions, r.manner = .emulated ∧ fragment.parts = [r]) ∨
  (fragment.emulated = false ∧
    ∀ r ∈ fragment.parts, r ∈ resolutions ∧ r.manner ≠ .emulated)

theorem GroupOf.cons {resolutions : List Resolution} {fragment : Fragment} (r : Resolution)
    (h : GroupOf resolutions fragment) : GroupOf (r :: resolutions) fragment := by
  rcases h with ⟨emulated, s, mem, hs⟩ | ⟨native, parts⟩
  · exact .inl ⟨emulated, s, List.mem_cons_of_mem r mem, hs⟩
  · exact .inr ⟨native, fun s mem => ⟨List.mem_cons_of_mem r (parts s mem).1, (parts s mem).2⟩⟩

theorem groupOf_push {r : Resolution} {resolutions : List Resolution} {fragments : List Fragment}
    (h : ∀ fragment ∈ fragments, GroupOf resolutions fragment) :
    ∀ fragment ∈ push r fragments, GroupOf (r :: resolutions) fragment := by
  have others : ∀ fragment ∈ fragments, GroupOf (r :: resolutions) fragment :=
    fun fragment mem => (h fragment mem).cons r
  by_cases hr : r.manner = .emulated
  · unfold push
    rw [if_pos hr]
    exact List.forall_mem_cons.mpr ⟨.inl ⟨rfl, r, List.mem_cons_self, hr, rfl⟩, others⟩
  · have alone : GroupOf (r :: resolutions) ⟨false, [r]⟩ := by
      refine .inr ⟨rfl, fun s mem => ?_⟩
      rw [List.mem_singleton.mp mem]
      exact ⟨List.mem_cons_self, hr⟩
    unfold push
    rw [if_neg hr]
    split
    · next parts rest =>
      obtain ⟨first, rest⟩ := List.forall_mem_cons.mp others
      refine List.forall_mem_cons.mpr ⟨.inr ⟨rfl, fun s mem => ?_⟩, rest⟩
      rcases List.mem_cons.mp mem with rfl | mem
      · exact ⟨List.mem_cons_self, hr⟩
      · rcases first with ⟨emulated, -⟩ | ⟨-, parts⟩
        · cases emulated
        · exact parts s mem
    · exact List.forall_mem_cons.mpr ⟨alone, others⟩

/-- A fragment of a plan is one recipe, or a run of resolutions without one. -/
theorem groupOf_coalesce (resolutions : List Resolution) :
    ∀ fragment ∈ coalesce resolutions, GroupOf resolutions fragment := by
  induction resolutions with
  | nil => exact fun fragment mem => absurd mem List.not_mem_nil
  | cons r rest ih => exact groupOf_push ih

/-- What a fragment of a plan is written as: a recipe of the engine's table, or a call of its date
function. -/
theorem sql_cases {engine : Engine} {tokens : List Token} {fragment : Fragment}
    (group : GroupOf (tokens.map (Resolution.decided engine)) fragment) :
    (∃ c recipe, engine.capability? c = some (.emulated recipe) ∧
      ∀ g subject, fragment.sql g subject = recipe.sql g subject) ∨
    (fragment.emulated = false ∧ ∀ g subject, fragment.sql g subject =
      nativeCall g subject (NativeFormat.ofParts g.kind fragment.parts)) := by
  rcases group with ⟨emulated, r, mem, manner, parts⟩ | ⟨native, -⟩
  · obtain ⟨token, -, rfl⟩ := List.mem_map.mp mem
    obtain ⟨-, recipe, found, listed⟩ := Resolution.recipe?_decided manner
    refine .inl ⟨token.char, recipe, listed, fun g subject => ?_⟩
    rw [sql, if_pos emulated, parts, List.head?_cons, Option.bind_some, found]
  · refine .inr ⟨native, fun g subject => ?_⟩
    rw [sql, if_neg (by rw [native]; exact Bool.false_ne_true)]

theorem parts_push (r : Resolution) (fragments : List Fragment) :
    (push r fragments).flatMap parts = r :: fragments.flatMap parts := by
  unfold push
  split
  · rfl
  · split <;> simp

/-- Coalescing loses, repeats and reorders nothing. -/
@[simp] theorem parts_coalesce (resolutions : List Resolution) :
    (coalesce resolutions).flatMap parts = resolutions := by
  induction resolutions with
  | nil => rfl
  | cons r rest ih =>
    rw [coalesce, List.foldr_cons, parts_push]
    exact congrArg _ ih

end Fragment

/-! ## The whole pipeline -/

/-- The steps of a compilation whose format is accepted. -/
def Explanation.accepted (engine : Engine) (format : Text) : Explanation where
  kind := engine.kind
  format := format
  tokens := Token.tokenize format
  resolutions := (Token.tokenize format).map (Resolution.decided engine)
  fragments := Fragment.coalesce ((Token.tokenize format).map (Resolution.decided engine))

theorem explain_eq (engine : Engine) (format : Text) :
    explain engine.kind format = match Pattern.validate format with
      | .ok () => .ok (.accepted engine format)
      | .error e => .error (.pattern e) := by
  unfold explain Pattern.validate
  simp only [Engine.requireEngine_kind, bind, Except.bind, Resolution.resolveAll_eq]
  cases Pattern.checkEncoding format with
  | error e => rfl
  | ok u => cases (Token.tokenize format).findSome? Pattern.fault? <;> rfl

theorem plan_eq (engine : Engine) (format : Text) :
    plan engine.kind format = match Pattern.validate format with
      | .ok () => .ok (Fragment.coalesce ((Token.tokenize format).map (Resolution.decided engine)))
      | .error e => .error (.pattern e) := by
  rw [plan, explain_eq]
  cases Pattern.validate format <;> rfl

theorem compileText_eq {g : Grammar} {engine : Engine} (kind : g.kind = engine.kind)
    (subject format : Text) :
    compileText g subject format = match Pattern.validate format with
      | .ok () => .ok (emit g subject
          (Fragment.coalesce ((Token.tokenize format).map (Resolution.decided engine))))
      | .error e => .error (.pattern e) := by
  rw [compileText, kind, plan_eq]
  cases Pattern.validate format <;> rfl

theorem render_eq (t : Moment) (format : Text) :
    Reference.render t format = match Pattern.validate format with
      | .ok () => .ok ((Token.tokenize format).flatMap (Reference.token t))
      | .error e => .error e := by
  rw [Reference.render]
  cases Pattern.validate format <;> rfl

end DatePattern
