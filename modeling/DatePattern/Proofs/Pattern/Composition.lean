import DatePattern.Proofs.Pattern.Acceptance

/-!
# Formats one behind the other

Two formats can be joined when the first does not end inside an escape. Whether it does is a
question about its last characters only, however long the run of backslashes there is: an even
number of them leaves the tokenizer where it started.

- `even_backslashRun_append`: an even run at the end of a list does not matter to one before it;
- `Token.ofCharsFrom_append`: behind an even run of backslashes tokens start afresh. The induction
  runs over the tokens of the first format, and each of them leaves the run at the end even or odd
  as it is;
- `PatternError.shift`, `Token.shift`, `Resolution.shift`: what moves when a format stands behind
  another. Nothing but positions does, so the verdict and the decisions stay;
- `Composes`: what it means for an entry point to go along with joining. `Composes.of_outcome` needs
  to know nothing of an entry point but that the check decides whether it succeeds.
-/

namespace DatePattern

theorem Text.isUtf8_append {a b : Text} (validA : a.isUtf8 = true) (validB : b.isUtf8 = true) :
    (a ++ b).isUtf8 = true := by
  rw [Text.isUtf8_iff, ← Text.ofChars_chars validA, ← Text.ofChars_chars validB]
  exact ⟨_, (Text.ofChars_append ..).symm⟩

/-! ## The end of a format -/

/-- Behind an even run, a run stays even or odd. -/
theorem even_backslashRun_append {behind : List Char} (even : Even (backslashRun behind))
    (cs : List Char) : Even (backslashRun (cs ++ behind)) ↔ Even (backslashRun cs) := by
  induction cs with
  | nil => exact iff_of_true even Even.zero
  | cons c cs ih =>
    rw [List.cons_append]
    by_cases hc : c = '\\'
    · rw [hc, Pattern.backslashRun_cons_self, Pattern.backslashRun_cons_self, Nat.even_add_one,
        Nat.even_add_one, ih]
    · rw [Pattern.backslashRun_cons_of_ne hc, Pattern.backslashRun_cons_of_ne hc]

/-! ## Tokens -/

namespace Token

/-- A token `n` characters further on. -/
def shift (n : Nat) (token : Token) : Token := { token with pos := token.pos + n }

/-- Positions count from where reading starts. -/
theorem ofCharsFrom_add (pos n : Nat) (cs : List Char) :
    ofCharsFrom (pos + n) cs = (ofCharsFrom pos cs).map (shift n) := by
  induction cs using reading_induction generalizing pos with
  | nil => rfl
  | trailing => rfl
  | escaped c rest ih =>
    rw [ofCharsFrom_escaped, ofCharsFrom_escaped, List.map_cons, ← ih, Nat.add_right_comm]
    rfl
  | plain c rest hc ih =>
    rw [ofCharsFrom_plain _ hc, ofCharsFrom_plain _ hc, List.map_cons, ← ih, Nat.add_right_comm]
    rfl

/-- **Behind an even run of backslashes tokens start afresh.** -/
theorem ofCharsFrom_append (pos : Nat) {cs : List Char} (even : Even (backslashRun cs.reverse))
    (behind : List Char) :
    ofCharsFrom pos (cs ++ behind) =
      ofCharsFrom pos cs ++ ofCharsFrom (pos + cs.length) behind := by
  induction cs using reading_induction generalizing pos with
  | nil => rfl
  | trailing => exact absurd even (by decide)
  | escaped c rest ih =>
    rw [List.reverse_cons, List.reverse_cons, List.append_assoc] at even
    have ends := (even_backslashRun_append (Pattern.even_backslashRun_escaped c Even.zero) _).mp even
    rw [ofCharsFrom_escaped, List.cons_append, List.cons_append, List.cons_append,
      ofCharsFrom_escaped, ih _ ends, List.length_cons, List.length_cons, Nat.add_right_comm,
      Nat.add_assoc]
  | plain c rest hc ih =>
    rw [List.reverse_cons] at even
    have ends := (even_backslashRun_append (Pattern.even_backslashRun_plain hc []) _).mp even
    rw [ofCharsFrom_plain _ hc, List.cons_append, List.cons_append, ofCharsFrom_plain _ hc,
      ih _ ends, List.length_cons, Nat.add_right_comm, Nat.add_assoc]

/-- The tokens of a format behind another. -/
theorem tokenize_append {a b : Text} (valid : a.isUtf8 = true)
    (even : Even (backslashRun a.chars.reverse)) :
    tokenize (a ++ b) = tokenize a ++ (tokenize b).map (shift a.charCount) := by
  have read : (a ++ b).chars = a.chars ++ b.chars := by
    rw [← Text.ofChars_chars valid, Text.chars_ofChars_append, Text.chars_ofChars]
  rw [tokenize, read, ofCharsFrom_append 0 even, Text.charCount_eq, ofCharsFrom_add]
  rfl

end Token

/-! ## Verdicts -/

/-- An error about a format that stands behind `n` characters. A stray byte is told by its offset
and not by a position. -/
def PatternError.shift (n : Nat) : PatternError → PatternError
  | .strayByte offset => .strayByte offset
  | .notUtf8 => .notUtf8
  | .unsupported char pos => .unsupported char (pos + n)

/-- The decision for a token `n` characters further on. -/
def Resolution.shift (n : Nat) (r : Resolution) : Resolution := { r with token := r.token.shift n }

theorem Resolution.decided_shift (engine : Engine) (n : Nat) (token : Token) :
    decided engine (token.shift n) = (decided engine token).shift n := by
  show (if token.literal then _ else ofCapability? _ (engine.capability? token.char)) = _
  unfold decided
  split
  · rfl
  · unfold ofCapability?
    split <;> rfl

namespace Pattern

theorem fault?_shift (n : Nat) (token : Token) :
    fault? (token.shift n) = (fault? token).map (PatternError.shift n) := by
  show (if !token.literal && Charset.isUnsupported token.char then _ else _) = _
  unfold fault?
  split <;> rfl

/-- **The check of a format behind another**: the first format is checked first, and the error of
the second stands behind the first. -/
theorem validate_append {a b : Text} (validA : a.isUtf8 = true) (validB : b.isUtf8 = true)
    (even : Even (backslashRun a.chars.reverse)) :
    validate (a ++ b) =
      (validate a).bind fun _ => (validate b).mapError (PatternError.shift a.charCount) := by
  have valid : (a ++ b).isUtf8 = true := Text.isUtf8_append validA validB
  have moved : ((Token.tokenize b).map (Token.shift a.charCount)).findSome? fault? =
      ((Token.tokenize b).findSome? fault?).map (PatternError.shift a.charCount) := by
    rw [List.findSome?_map, List.map_findSome?]
    exact congrArg (List.findSome? · _) (funext (fault?_shift a.charCount))
  rw [validate_eq valid, validate_eq validA, validate_eq validB,
    Token.tokenize_append validA even, List.findSome?_append, moved]
  cases (Token.tokenize a).findSome? fault? with
  | some e => rfl
  | none => cases (Token.tokenize b).findSome? fault? <;> rfl

end Pattern

/-- The decisions for the tokens of a format without stray bytes: the check decides whether there
are any. -/
theorem Kind.resolveAll_tokenize (engine : Engine) {format : Text} (valid : format.isUtf8 = true) :
    engine.kind.resolveAll (Token.tokenize format) =
      ((Pattern.validate format).map fun _ =>
        (Token.tokenize format).map (Resolution.decided engine)).mapError .pattern := by
  rw [Engine.resolveAll_kind, Resolution.resolveAll_eq, Pattern.validate_eq valid]
  cases (Token.tokenize format).findSome? Pattern.fault? <;> rfl

/-! ## Entry points -/

/-- What an entry point `run` makes of the format `a ++ b`, given what it makes of `a` and of `b`:
results are joined, and errors come from the first format that has one. -/
structure Composes {ε α : Type} (a b : Text) (wrap : PatternError → ε) (join : α → α → α)
    (run : Text → Except ε α) : Prop where
  /-- Both formats are accepted. -/
  accepted : Pattern.validate a = .ok () → Pattern.validate b = .ok () →
    ∃ x y, run a = .ok x ∧ run b = .ok y ∧ run (a ++ b) = .ok (join x y)
  /-- The first format is rejected: the error is its error. -/
  first : ∀ e, Pattern.validate a = .error e →
    run a = .error (wrap e) ∧ run (a ++ b) = .error (wrap e)
  /-- Only the second format is rejected: the error is its error, behind the first format. -/
  second : Pattern.validate a = .ok () → ∀ e, Pattern.validate b = .error e →
    run b = .error (wrap e) ∧ run (a ++ b) = .error (wrap (e.shift a.charCount))

/-- An entry point goes along with joining formats when the check decides whether it succeeds and
its values are joined. -/
theorem Composes.of_outcome {ε α : Type} {a b : Text} {wrap : PatternError → ε}
    {join : α → α → α} {run : Text → Except ε α} (validA : a.isUtf8 = true)
    (validB : b.isUtf8 = true) (even : Even (backslashRun a.chars.reverse)) (value : Text → α)
    (outcome : ∀ format : Text, format.isUtf8 = true →
      run format = ((Pattern.validate format).map fun _ => value format).mapError wrap)
    (joined : value (a ++ b) = join (value a) (value b)) : Composes a b wrap join run := by
  have valid : (a ++ b).isUtf8 = true := Text.isUtf8_append validA validB
  have whole := Pattern.validate_append validA validB even
  refine ⟨fun acceptedA acceptedB => ?_, fun e rejected => ?_, fun accepted e rejected => ?_⟩
  · refine ⟨value a, value b, ?_, ?_, ?_⟩
    · rw [outcome a validA, acceptedA]
      rfl
    · rw [outcome b validB, acceptedB]
      rfl
    · rw [outcome _ valid, whole, acceptedA, acceptedB, joined]
      rfl
  · rw [outcome a validA, outcome _ valid, whole, rejected]
    exact ⟨rfl, rfl⟩
  · rw [outcome b validB, outcome _ valid, whole, accepted, rejected]
    exact ⟨rfl, rfl⟩

/-- **Formats compose by concatenation.** Behind a format that ends in an even number of
backslashes, the tokens of a second format are its own, only further on. So the check, the
reference rendering at any moment and the decisions of any engine go along with joining the two:
results are joined, the error is that of the first format or, behind it, that of the second. -/
theorem formats_compose (a b : Text) (validA : a.isUtf8 = true) (validB : b.isUtf8 = true)
    (even : Even (backslashRun a.chars.reverse)) :
    Token.tokenize (a ++ b) =
      Token.tokenize a ++ (Token.tokenize b).map (Token.shift a.charCount) ∧
    Composes a b id (fun _ _ => ()) Pattern.validate ∧
    (∀ t, Composes a b id (· ++ ·) (Reference.render t)) ∧
    ∀ engine : Engine, Composes a b .pattern
      (fun before behind => before ++ behind.map (Resolution.shift a.charCount))
      fun format => engine.kind.resolveAll (Token.tokenize format) := by
  have tokens : Token.tokenize (a ++ b) =
      Token.tokenize a ++ (Token.tokenize b).map (Token.shift a.charCount) :=
    Token.tokenize_append validA even
  refine ⟨tokens, ?_, fun t => ?_, fun engine => ?_⟩
  · refine .of_outcome validA validB even (fun _ => ()) (fun format _ => ?_) rfl
    cases Pattern.validate format <;> rfl
  · refine .of_outcome validA validB even
      (fun format => (Token.tokenize format).flatMap (Reference.token t)) (fun format _ => ?_) ?_
    · rw [render_eq]
      cases Pattern.validate format <;> rfl
    · rw [tokens, List.flatMap_append, List.flatMap_map]
      rfl
  · refine .of_outcome validA validB even
      (fun format => (Token.tokenize format).map (Resolution.decided engine))
      (fun format valid => Kind.resolveAll_tokenize engine valid) ?_
    · rw [tokens, List.map_append, List.map_map, List.map_map]
      exact congrArg _ (List.map_congr_left fun token _ => Resolution.decided_shift engine _ token)

/-- Two backslashes at the end leave the next format as it is: its rejected character is reported
three characters further on, the `é` counting once. -/
theorem formats_compose_example :
    let a := Text.ofChars ['é', '\\', '\\']
    let b := Text.ofChars ['T']
    let e : PatternError := .unsupported 'T' 3
    a.isUtf8 = true ∧ b.isUtf8 = true ∧ Even (backslashRun a.chars.reverse) ∧
    Token.tokenize (a ++ b) = [.plain 'é' 0, .escaped '\\' 1, .plain 'T' 3] ∧
    Pattern.validate (a ++ b) = .error e ∧ Reference.render .zero (a ++ b) = .error e ∧
    Engine.mysql.kind.resolveAll (Token.tokenize (a ++ b)) = .error (.pattern e) := by
  intro a b e
  have validA : a.isUtf8 = true := by decide
  have validB : b.isUtf8 = true := by decide
  have even : Even (backslashRun a.chars.reverse) := by decide
  have accepted : Pattern.validate a = .ok () := by decide
  have rejected : Pattern.validate b = .error (.unsupported 'T' 0) := by decide
  obtain ⟨tokens, check, reference, decisions⟩ := formats_compose a b validA validB even
  refine ⟨validA, validB, even, ?_, (check.second accepted _ rejected).2,
    ((reference .zero).second accepted _ rejected).2,
    ((decisions .mysql).second accepted _ rejected).2⟩
  rw [tokens]
  decide

end DatePattern
