import DatePattern.Proofs.Plan.Stages

/-!
# What a plan denotes

A plan says which part of a format is copied, which is left to the date function of an engine
and which follows a recipe. Reading a part as the reference renders its token gives the plan a
meaning in which no engine has a say, and that meaning is the reference rendering of the format:

- `Engine.isSome_capability?` and `Reference.isSome_char?`: every table, and the reference
  renderer, know exactly the supported characters;
- `Resolution.meaning_decided`: one token denotes what the reference gives for it, and so does
  a whole plan, on every engine.
-/

namespace DatePattern

/-! ## One alphabet -/

/-- The tables list the same characters in the same order. -/
theorem Engine.map_fst_table (engine : Engine) :
    engine.table.map Prod.fst = Charset.supported := by
  cases engine <;> rfl

/-- Every engine has an entry for exactly the supported characters. -/
theorem Engine.isSome_capability? (engine : Engine) (c : Char) :
    (engine.capability? c).isSome = true ↔ c ∈ Charset.supported := by
  rw [← engine.map_fst_table, Engine.capability?, List.lookup_isSome_iff, List.mem_map]
  constructor
  · rintro ⟨entry, mem, same⟩
    exact ⟨entry, mem, (eq_of_beq same).symm⟩
  · rintro ⟨entry, mem, rfl⟩
    exact ⟨entry, mem, beq_self_eq_true _⟩

/-- The reference renders exactly the supported characters. -/
theorem Reference.isSome_char? (t : Moment) (c : Char) :
    (Reference.char? t c).isSome = true ↔ c ∈ Charset.supported := by
  unfold Reference.char?
  split <;> simp_all [Charset.supported]

/-- An engine copies a character exactly when the reference does. -/
theorem Engine.capability?_eq_none_iff (engine : Engine) (t : Moment) (c : Char) :
    engine.capability? c = none ↔ Reference.char? t c = none := by
  rw [← Option.not_isSome_iff_eq_none, ← Option.not_isSome_iff_eq_none,
    engine.isSome_capability?, Reference.isSome_char?]

/-! ## Denotations -/

namespace Resolution

/-- What a part stands for at a moment: its own text when it is copied, the reference rendering
of its character otherwise. A part that is produced in no known way stands for nothing. -/
def meaning (t : Moment) (part : Resolution) : Option Text :=
  match part.manner with
  | .literal => some part.token.text
  | .native | .emulated => Reference.char? t part.token.char
  | .unknown => none

/-- What a list of parts stands for: the meanings one after the other. -/
def meanings (t : Moment) : List Resolution → Option Text
  | [] => some []
  | part :: rest => do return (← part.meaning t) ++ (← meanings t rest)

/-- A decided token is copied exactly when it is escaped or the reference copies it. -/
theorem manner_decided_eq_literal_iff (engine : Engine) (t : Moment) (token : Token) :
    (decided engine token).manner = .literal ↔
      token.literal = true ∨ Reference.char? t token.char = none := by
  rw [← engine.capability?_eq_none_iff t]
  unfold decided
  cases token.literal with
  | true => simp
  | false =>
    cases engine.capability? token.char with
    | none => simp [ofCapability?]
    | some capability => cases capability <;> simp [ofCapability?]

/-- One token: the engine's decision denotes the reference rendering. -/
theorem meaning_decided (engine : Engine) (t : Moment) (token : Token) :
    (decided engine token).meaning t = some (Reference.token t token) := by
  unfold Reference.token decided
  cases token.literal with
  | true => rfl
  | false =>
    have copied := engine.capability?_eq_none_iff t token.char
    cases hc : engine.capability? token.char with
    | none =>
      rw [copied.mp hc]
      rfl
    | some capability =>
      -- the entry and the reference rendering exist together, so the rendering is the meaning
      cases hr : Reference.char? t token.char with
      | none => rw [copied.mpr hr] at hc; cases hc
      | some text => cases capability <;> exact hr

theorem meanings_decided (engine : Engine) (t : Moment) (tokens : List Token) :
    meanings t (tokens.map (decided engine)) = some (tokens.flatMap (Reference.token t)) := by
  induction tokens with
  | nil => rfl
  | cons token rest ih =>
    rw [List.map_cons, meanings, meaning_decided, ih, List.flatMap_cons]
    rfl

end Resolution

/-- **Every engine's plan denotes the reference rendering.** For an accepted format the parts of
the plan are the tokens of the format in order, each copied exactly when the reference copies it,
and together they denote the text that the reference gives; that text is one for all engines. -/
theorem plan_denotes_render (format : Text) (accepted : Pattern.validate format = .ok ())
    (t : Moment) :
    ∃ text, Reference.render t format = .ok text ∧ ∀ engine : Engine,
      ∃ fragments, plan engine.kind format = .ok fragments ∧
        Resolution.meanings t (fragments.flatMap Fragment.parts) = some text ∧
        (fragments.flatMap Fragment.parts).map Resolution.token = Token.tokenize format ∧
        ∀ part ∈ fragments.flatMap Fragment.parts, part.manner = .literal ↔
          part.token.literal = true ∨ Reference.char? t part.token.char = none := by
  refine ⟨(Token.tokenize format).flatMap (Reference.token t), ?_, fun engine => ?_⟩
  · rw [render_eq, accepted]
  · refine ⟨Fragment.coalesce ((Token.tokenize format).map (Resolution.decided engine)),
      ?_, ?_, ?_, ?_⟩
    · rw [plan_eq, accepted]
    · rw [Fragment.parts_coalesce, Resolution.meanings_decided]
    · rw [Fragment.parts_coalesce, List.map_map]
      exact List.map_id'' (Resolution.token_decided engine) _
    · intro part mem
      rw [Fragment.parts_coalesce] at mem
      obtain ⟨token, -, rfl⟩ := List.mem_map.mp mem
      rw [Resolution.token_decided]
      exact Resolution.manner_decided_eq_literal_iff engine t token

/-- A format with text, an escape and characters that only some engines know natively. -/
theorem plan_denotes_render_example :
    let format : Text := "D, j \\t\\h W%o"
    Pattern.validate format = .ok () ∧
    ∃ text, Reference.render Moment.zero format = .ok text ∧ ∀ engine : Engine,
      ∃ fragments, plan engine.kind format = .ok fragments ∧
        Resolution.meanings Moment.zero (fragments.flatMap Fragment.parts) = some text ∧
        (fragments.flatMap Fragment.parts).map Resolution.token = Token.tokenize format ∧
        ∀ part ∈ fragments.flatMap Fragment.parts, part.manner = .literal ↔
          part.token.literal = true ∨ Reference.char? Moment.zero part.token.char = none := by
  intro format
  have accepted : Pattern.validate format = .ok () := by decide +kernel
  exact ⟨accepted, plan_denotes_render format accepted Moment.zero⟩

end DatePattern
