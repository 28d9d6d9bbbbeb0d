import DatePattern.Proofs.Pattern.Composition

/-!
# Following the hint

A rejected character is reported with its position and the hint to escape it. A backslash put there
turns the character into a literal and touches no other token: the format can be cut in front of the
character, so the backslash takes along that character and nothing else. The hint may be followed
again and again, and each time one rejected character less is left.

- `Pattern.exists_of_rejected`: where a rejected character stands. The tokens before it have no
  fault, and the format can be cut there;
- `Pattern.rejections`: how many rejected characters count, by the parity of the backslashes before
  them; `Pattern.countP_isFaulty`: there is one for each token with a fault;
- `Pattern.Hinted`: what one backslash changes, from which the rest follows.
-/

namespace DatePattern

/-- Tokens stand behind the characters that were read before. -/
theorem Token.le_pos (pos : Nat) (cs : List Char) :
    ∀ token ∈ ofCharsFrom pos cs, (pos : Int) ≤ token.pos := by
  induction cs using reading_induction generalizing pos with
  | nil => exact List.forall_mem_nil _
  | trailing => exact List.forall_mem_singleton.mpr (Int.le_refl _)
  | escaped c rest ih =>
    rw [ofCharsFrom_escaped]
    refine List.forall_mem_cons.mpr ⟨Int.le_refl _, fun token mem => ?_⟩
    have further := ih (pos + 2) token mem
    omega
  | plain c rest hc ih =>
    rw [ofCharsFrom_plain pos hc]
    refine List.forall_mem_cons.mpr ⟨Int.le_refl _, fun token mem => ?_⟩
    have further := ih (pos + 1) token mem
    omega

namespace Pattern

/-! ## The hint -/

/-- A format with a backslash in front of the character at a position. -/
def escapeAt (pos : Nat) (format : Text) : Text :=
  Text.ofChars (format.chars.take pos ++ '\\' :: format.chars.drop pos)

/-- What the check of a format advises: a rejected character is escaped. A format that is not
rejected for a character stays as it is. -/
def followHint (format : Text) : Text :=
  match validate format with
  | .error (.unsupported _ pos) => escapeAt pos.toNat format
  | _ => format

theorem followHint_of_rejected {format : Text} {c : Char} {pos : Nat}
    (rejected : validate format = .error (.unsupported c pos)) :
    followHint format = escapeAt pos format := by
  rw [followHint, rejected]
  rfl

/-! ## Counting -/

instance (behind cs : List Char) (i : Nat) (c : Char) :
    Decidable (RejectedBehind behind cs i c) :=
  inferInstanceAs (Decidable (_ ∧ _ ∧ _))

instance (cs : List Char) (i : Nat) (c : Char) : Decidable (RejectedAt cs i c) :=
  inferInstanceAs (Decidable (_ ∧ _ ∧ _))

/-- How many characters are rejected where they stand. -/
def rejections (cs : List Char) : Nat := cs.zipIdx.countP fun entry => RejectedAt cs entry.2 entry.1

/-- `rejections` for the characters that stand behind others, given in reverse. -/
def rejectionsBehind (behind cs : List Char) : Nat :=
  cs.zipIdx.countP fun entry => RejectedBehind behind cs entry.2 entry.1

theorem rejectionsBehind_nil (cs : List Char) : rejectionsBehind [] cs = rejections cs := by
  simp only [rejectionsBehind, rejections, rejectedBehind_nil]

theorem rejectionsBehind_cons (behind cs : List Char) (a : Char) :
    rejectionsBehind behind (a :: cs) =
      rejectionsBehind (a :: behind) cs + if RejectedBehind behind (a :: cs) 0 a then 1 else 0 := by
  have others : (cs.zipIdx 1).countP
      (fun entry => decide (RejectedBehind behind (a :: cs) entry.2 entry.1)) =
      rejectionsBehind (a :: behind) cs := by
    rw [← Nat.zero_add 1, List.zipIdx_succ, List.countP_map]
    simp only [Function.comp_def, rejectedBehind_succ]
    rfl
  rw [rejectionsBehind, List.zipIdx_cons, List.countP_cons, Nat.zero_add, others]
  simp only [decide_eq_true_eq]

/-- A character at the front that does not count is passed over. -/
theorem rejectionsBehind_cons_of_not {behind cs : List Char} {a : Char}
    (front : ¬ RejectedBehind behind (a :: cs) 0 a) :
    rejectionsBehind behind (a :: cs) = rejectionsBehind (a :: behind) cs := by
  rw [rejectionsBehind_cons, if_neg front, Nat.add_zero]

/-- Whether a token has a fault. -/
def isFaulty (token : Token) : Bool := (fault? token).isSome

theorem isFaulty_shift (n : Nat) (token : Token) : isFaulty (token.shift n) = isFaulty token := by
  rw [isFaulty, isFaulty, fault?_shift, Option.isSome_map]

theorem countP_isFaulty_eq_zero {tokens : List Token} (h : ∀ token ∈ tokens, fault? token = none) :
    tokens.countP isFaulty = 0 := by
  rw [List.countP_eq_zero]
  intro token mem
  rw [isFaulty, h token mem]
  exact Bool.false_ne_true

/-- Behind an even run of backslashes, as many tokens have a fault as characters count. -/
theorem countP_isFaulty (pos : Nat) (cs behind : List Char) (even : Even (backslashRun behind)) :
    (Token.ofCharsFrom pos cs).countP isFaulty = rejectionsBehind behind cs := by
  induction cs using Token.reading_induction generalizing pos behind with
  | nil => rfl
  | trailing =>
    rw [rejectionsBehind_cons_of_not (not_rejectedBehind_backslash behind [] _)]
    rfl
  | escaped c rest ih =>
    rw [rejectionsBehind_cons_of_not (not_rejectedBehind_backslash behind _ _),
      rejectionsBehind_cons_of_not (not_rejectedBehind_escaped even c rest _),
      ← ih (pos + 2) _ (even_backslashRun_escaped c even), Token.ofCharsFrom_escaped]
    rfl
  | plain c rest hc ih =>
    have front : RejectedBehind behind (c :: rest) 0 c ↔ c ∈ "BceILNOPprSTuvXxzZ".toList := by
      rw [rejectedBehind_zero]
      exact ⟨fun h => h.2.1, fun mem => ⟨rfl, mem, even⟩⟩
    rw [rejectionsBehind_cons, ← ih (pos + 1) _ (even_backslashRun_plain hc behind),
      Token.ofCharsFrom_plain pos hc, List.countP_cons, isFaulty, fault?_plain]
    by_cases mem : c ∈ "BceILNOPprSTuvXxzZ".toList
    · rw [if_pos mem, if_pos (front.mpr mem)]
      rfl
    · rw [if_neg mem, if_neg (mt front.mp mem)]
      rfl

theorem rejections_eq (format : Text) :
    rejections format.chars = (Token.tokenize format).countP isFaulty := by
  rw [← rejectionsBehind_nil]
  exact (countP_isFaulty 0 format.chars [] Even.zero).symm

/-! ## One backslash -/

theorem isUtf8_of_rejected {format : Text} {c : Char} {pos : Int}
    (rejected : validate format = .error (.unsupported c pos)) : format.isUtf8 = true := by
  obtain ⟨-, offset, stray⟩ | ⟨cs, -, -, hcs, -⟩ | ⟨cs, hcs, -⟩ := validate_cases format
  · rw [stray] at rejected
    cases rejected
  · exact (Text.isUtf8_iff format).mpr ⟨cs, hcs⟩
  · exact (Text.isUtf8_iff format).mpr ⟨cs, hcs⟩

/-- A fault names the character and the position of its token. -/
theorem eq_of_fault? {token : Token} {e : PatternError} (h : fault? token = some e) :
    ∃ c, e = .unsupported c token.pos := by
  unfold fault? at h
  split at h
  · cases h
    exact ⟨_, rfl⟩
  · cases h

/-- Where a rejected character stands: behind tokens without a fault, at a place where the format
can be cut. -/
theorem exists_of_rejected {format : Text} {c : Char} {pos : Int}
    (rejected : validate format = .error (.unsupported c pos)) :
    ∃ front rest before, format = Text.ofChars (front ++ c :: rest) ∧ pos = front.length ∧
      c ≠ '\\' ∧ isFaulty (.plain c front.length) = true ∧
      (∀ token ∈ before, fault? token = none) ∧
      ∀ other, Token.ofCharsFrom 0 (front ++ other) =
        before ++ Token.ofCharsFrom front.length other := by
  have valid := isUtf8_of_rejected rejected
  have found : (Token.tokenize format).findSome? fault? = some (.unsupported c pos) := by
    rw [validate_eq valid] at rejected
    cases h : (Token.tokenize format).findSome? fault? with
    | none =>
      rw [h] at rejected
      cases rejected
    | some e =>
      rw [h] at rejected
      cases rejected
      rfl
  obtain ⟨before, token, after, tokens, fault, faultless⟩ := List.findSome?_eq_some_iff.mp found
  obtain ⟨front, rest, chars, -, first, cut⟩ := Token.eq_append_cons tokens
  rw [Nat.zero_add] at first
  simp only [Nat.zero_add] at cut
  obtain ⟨d, rest, hd, rfl, rfl, -⟩ | ⟨d, rest, -, rfl, -⟩ | ⟨-, rfl, -⟩ := Token.eq_cons first
  · -- only an unescaped character has a fault, and the fault names it
    have named : d = c ∧ (front.length : Int) = pos := by
      rw [fault?_plain] at fault
      split at fault
      · cases fault
        exact ⟨rfl, rfl⟩
      · cases fault
    obtain ⟨rfl, rfl⟩ := named
    refine ⟨front, rest, before, ?_, rfl, hd, ?_, faultless, cut⟩
    · rw [← chars, Text.ofChars_chars valid]
    · rw [isFaulty, fault]
      rfl
  · cases fault
  · cases fault

/-- What a backslash in front of the rejected character `c` at position `p` does to the tokens of
a format. -/
structure Hinted (format : Text) (c : Char) (p : Nat) (before after : List Token) : Prop where
  /-- The format stays UTF-8. -/
  valid : (escapeAt p format).isUtf8 = true
  /-- The rejected character is a token of the format. -/
  rejected : Token.tokenize format = before ++ .plain c p :: after
  /-- It becomes a literal, and nothing else changes but the positions behind it. -/
  escaped : Token.tokenize (escapeAt p format) =
    before ++ .escaped c p :: after.map (Token.shift 1)
  /-- It has a fault. -/
  fault : isFaulty (.plain c p) = true
  /-- The tokens before it have none. -/
  faultless : ∀ token ∈ before, fault? token = none
  /-- The tokens after it stand further on. -/
  later : ∀ token ∈ after, ((p + 1 : Nat) : Int) ≤ token.pos

theorem hinted_of_rejected {format : Text} {c : Char} {pos : Int}
    (rejected : validate format = .error (.unsupported c pos)) :
    ∃ (p : Nat) (before after : List Token), pos = p ∧ Hinted format c p before after := by
  obtain ⟨front, rest, before, rfl, rfl, hc, fault, faultless, cut⟩ := exists_of_rejected rejected
  have inserted : escapeAt front.length (Text.ofChars (front ++ c :: rest)) =
      Text.ofChars (front ++ '\\' :: c :: rest) := by
    rw [escapeAt, Text.chars_ofChars, List.take_left, List.drop_left]
  refine ⟨front.length, before, Token.ofCharsFrom (front.length + 1) rest, rfl, ?_⟩
  constructor
  case valid =>
    rw [inserted]
    exact (Text.isUtf8_iff _).mpr ⟨_, rfl⟩
  case rejected =>
    rw [Token.tokenize, Text.chars_ofChars, cut, Token.ofCharsFrom_plain _ hc]
  case escaped =>
    rw [inserted, Token.tokenize, Text.chars_ofChars, cut, Token.ofCharsFrom_escaped,
      ← Token.ofCharsFrom_add]
  case fault => exact fault
  case faultless => exact faultless
  case later => exact Token.le_pos _ rest

namespace Hinted

variable {format : Text} {c : Char} {p : Nat} {before after : List Token}

/-- A fault that is left stands behind the character that was escaped. -/
theorem validate_cases (h : Hinted format c p before after) :
    validate (escapeAt p format) = .ok () ∨
      ∃ d q, validate (escapeAt p format) = .error (.unsupported d q) ∧ (p : Int) + 1 < q := by
  have front : before.findSome? fault? = none := List.findSome?_eq_none_iff.mpr h.faultless
  have left : (Token.tokenize (escapeAt p format)).findSome? fault? =
      (after.map (Token.shift 1)).findSome? fault? := by
    rw [h.escaped, List.findSome?_append, front]
    rfl
  rw [validate_eq h.valid, left]
  cases found : (after.map (Token.shift 1)).findSome? fault? with
  | none => exact .inl rfl
  | some e =>
    right
    obtain ⟨moved, mem, fault⟩ := List.exists_of_findSome?_eq_some found
    obtain ⟨token, listed, rfl⟩ := List.mem_map.mp mem
    obtain ⟨d, rfl⟩ := eq_of_fault? fault
    refine ⟨d, _, rfl, ?_⟩
    have further := h.later token listed
    show (p : Int) + 1 < token.pos + 1
    omega

/-- One rejected character less is left. -/
theorem rejections_eq (h : Hinted format c p before after) :
    rejections format.chars = rejections (escapeAt p format).chars + 1 := by
  have front : before.countP isFaulty = 0 := countP_isFaulty_eq_zero h.faultless
  have moved : (after.map (Token.shift 1)).countP isFaulty = after.countP isFaulty := by
    rw [List.countP_map]
    simp only [Function.comp_def, isFaulty_shift]
  rw [Pattern.rejections_eq, Pattern.rejections_eq, h.rejected, h.escaped, List.countP_append,
    List.countP_append, front, List.countP_cons_of_pos h.fault,
    List.countP_cons_of_neg Bool.false_ne_true, moved]
  omega

end Hinted

/-! ## Backslash after backslash -/

/-- A format without stray bytes is accepted when no rejected character counts, and rejected for
one otherwise. -/
theorem validate_of_rejections {format : Text} (valid : format.isUtf8 = true) :
    (rejections format.chars = 0 ∧ validate format = .ok ()) ∨
      ∃ c pos, validate format = .error (.unsupported c pos) := by
  rw [rejections_eq, validate_eq valid]
  cases found : (Token.tokenize format).findSome? fault? with
  | none =>
    left
    exact ⟨countP_isFaulty_eq_zero (List.findSome?_eq_none_iff.mp found), rfl⟩
  | some e =>
    right
    obtain ⟨token, -, fault⟩ := List.exists_of_findSome?_eq_some found
    obtain ⟨d, rfl⟩ := eq_of_fault? fault
    exact ⟨d, _, rfl⟩

/-- **Following the hint ends**, after as many backslashes as rejected characters count, and not
before. By induction on that number, which each backslash makes smaller. -/
theorem followHint_ends {format : Text} (valid : format.isUtf8 = true) :
    validate (followHint^[rejections format.chars] format) = .ok () ∧
      ∀ k < rejections format.chars,
        ∃ c pos, validate (followHint^[k] format) = .error (.unsupported c pos) := by
  induction count : rejections format.chars generalizing format with
  | zero =>
    obtain ⟨-, accepted⟩ | ⟨c, pos, rejected⟩ := validate_of_rejections valid
    · exact ⟨accepted, fun k hk => absurd hk (Nat.not_lt_zero k)⟩
    · obtain ⟨p, before, after, rfl, hinted⟩ := hinted_of_rejected rejected
      have more := hinted.rejections_eq
      omega
  | succ n ih =>
    obtain ⟨none, -⟩ | ⟨c, pos, rejected⟩ := validate_of_rejections valid
    · omega
    · obtain ⟨p, before, after, rfl, hinted⟩ := hinted_of_rejected rejected
      have left : rejections (escapeAt p format).chars = n := by
        have more := hinted.rejections_eq
        omega
      obtain ⟨accepted, earlier⟩ := ih hinted.valid left
      have step : ∀ k, followHint^[k + 1] format = followHint^[k] (escapeAt p format) := by
        intro k
        rw [Function.iterate_succ_apply, followHint_of_rejected rejected]
      rw [step]
      refine ⟨accepted, fun k hk => ?_⟩
      cases k with
      | zero => exact ⟨c, p, rejected⟩
      | succ k =>
        rw [step]
        exact earlier k (Nat.lt_of_succ_lt_succ hk)

end Pattern

/-- **Following the hint always works.** A format that is rejected for a character gets a backslash
in front of it. Then the format is accepted, or it is rejected for a character that stands further
on than the escaped one; the rejected character is a literal token, and the other tokens are as
before, only further on behind it. Repeated, this ends in an accepted format after exactly as many
backslashes as the format has rejected characters behind an even number of backslashes. -/
theorem hint_leads_to_acceptance (format : Text) (c : Char) (pos : Int)
    (rejected : Pattern.validate format = .error (.unsupported c pos)) :
    ∃ p : Nat, pos = p ∧ Pattern.followHint format = Pattern.escapeAt p format ∧
      (Pattern.validate (Pattern.escapeAt p format) = .ok () ∨
        ∃ d q, Pattern.validate (Pattern.escapeAt p format) = .error (.unsupported d q) ∧
          pos + 1 < q) ∧
      (∃ before after, Token.tokenize format = before ++ .plain c p :: after ∧
        Token.tokenize (Pattern.escapeAt p format) =
          before ++ .escaped c p :: after.map (Token.shift 1)) ∧
      Pattern.validate (Pattern.followHint^[Pattern.rejections format.chars] format) = .ok () ∧
      ∀ k < Pattern.rejections format.chars, ∃ d q,
        Pattern.validate (Pattern.followHint^[k] format) = .error (.unsupported d q) := by
  obtain ⟨p, before, after, rfl, hinted⟩ := Pattern.hinted_of_rejected rejected
  refine ⟨p, rfl, Pattern.followHint_of_rejected rejected, hinted.validate_cases,
    ⟨before, after, hinted.rejected, hinted.escaped⟩, ?_⟩
  exact Pattern.followHint_ends (Pattern.isUtf8_of_rejected rejected)

/-- A rejected character behind two backslashes, an escaped one and another rejected one behind
it: two backslashes are called for. -/
theorem hint_leads_to_acceptance_example :
    let format := Text.ofChars ['é', '\\', '\\', 'T', '\\', 'T', 'z']
    Pattern.validate format = .error (.unsupported 'T' 3) ∧
    Pattern.rejections format.chars = 2 ∧
    Pattern.followHint format = Text.ofChars ['é', '\\', '\\', '\\', 'T', '\\', 'T', 'z'] ∧
    (∃ d q, Pattern.validate (Pattern.followHint format) = .error (.unsupported d q) ∧ 4 < q) ∧
    Pattern.validate (Pattern.followHint^[2] format) = .ok () := by
  intro format
  have rejected : Pattern.validate format = .error (.unsupported 'T' 3) := by decide
  have two : Pattern.rejections format.chars = 2 := by decide
  obtain ⟨p, hp, hint, verdict, -, accepted, earlier⟩ :=
    hint_leads_to_acceptance format 'T' 3 rejected
  obtain rfl : p = 3 := by omega
  rw [two] at accepted earlier
  rw [← hint] at verdict
  have again : ∃ d q, Pattern.validate (Pattern.followHint format) = .error (.unsupported d q) :=
    earlier 1 (by decide)
  refine ⟨rejected, two, by rw [hint]; decide, ?_, accepted⟩
  obtain accepted | verdict := verdict
  · obtain ⟨d, q, again⟩ := again
    rw [accepted] at again
    cases again
  · exact verdict

end DatePattern
