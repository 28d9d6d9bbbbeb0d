import DatePattern.Pattern.Basic
import DatePattern.Proofs.Text.Utf8

/-!
# Tokens as a partition

Tokenizing cuts a format into pieces that are put back together without loss. How the pieces look
and where they stand can be said of each token by itself, given what stands before and behind it,
and these rules leave no choice: the tokens of a format are the only list that obeys them.

- `Token.reading_induction`: the ways a format can start. An unescaped character, a backslash with
  the character it takes along, a backslash at the very end;
- `Token.eq_cons`, `Token.eq_append_cons`: what stands at the front of the tokens, and that a format
  may be cut in front of each of them;
- `Token.Fits`: the rules for a token in its place;
- `Token.eq_ofCharsFrom`: tokens that obey the rules are those of the characters they were read
  from. The induction carries the tokens already passed, since positions count from the start.
-/

namespace DatePattern

namespace Token

/-! ## Reading -/

section Equations

variable (pos : Nat)

theorem ofCharsFrom_nil : ofCharsFrom pos [] = [] := rfl

theorem ofCharsFrom_escaped (c : Char) (rest : List Char) :
    ofCharsFrom pos ('\\' :: c :: rest) = escaped c pos :: ofCharsFrom (pos + 2) rest := rfl

theorem ofCharsFrom_plain {c : Char} (h : c ≠ '\\') (rest : List Char) :
    ofCharsFrom pos (c :: rest) = plain c pos :: ofCharsFrom (pos + 1) rest := by
  cases rest with
  | nil => rw [ofCharsFrom_nil, ofCharsFrom, if_neg h]
  | cons d rest => rw [ofCharsFrom, if_neg h]

end Equations

/-- The ways characters can start, for the tokenizer. -/
@[elab_as_elim]
theorem reading_induction {motive : List Char → Prop} (nil : motive [])
    (trailing : motive ['\\'])
    (escaped : ∀ c rest, motive rest → motive ('\\' :: c :: rest))
    (plain : ∀ c rest, c ≠ '\\' → motive rest → motive (c :: rest)) (cs : List Char) :
    motive cs := by
  induction (0 : Nat), cs using ofCharsFrom.induct with
  | case1 => exact nil
  | case2 _ c =>
    by_cases hc : c = '\\'
    · rw [hc]
      exact trailing
    · exact plain c [] hc nil
  | case3 _ d rest ih => exact escaped d rest ih
  | case4 _ c d rest hc ih => exact plain c (d :: rest) hc ih

/-- The text that tokens were read from. -/
def source (tokens : List Token) : Text := tokens.flatMap raw

theorem source_append (tokens others : List Token) :
    source (tokens ++ others) = source tokens ++ source others := List.flatMap_append

theorem source_cons (token : Token) (tokens : List Token) :
    source (token :: tokens) = token.raw ++ source tokens := List.flatMap_cons

theorem source_singleton (token : Token) : source [token] = token.raw := List.flatMap_singleton ..

/-- Nothing is lost. -/
theorem source_ofCharsFrom (pos : Nat) (cs : List Char) :
    source (ofCharsFrom pos cs) = Text.ofChars cs := by
  induction cs using reading_induction generalizing pos with
  | nil => rfl
  | trailing => rfl
  | escaped c rest ih =>
    rw [ofCharsFrom_escaped, source_cons, ih]
    exact (Text.ofChars_append ['\\', c] rest).symm
  | plain c rest hc ih =>
    rw [ofCharsFrom_plain pos hc, source_cons, ih, Text.ofChars_cons]
    rfl

/-! ## Cuts -/

section Cuts

variable {pos : Nat} {cs : List Char} {token : Token} {before after : List Token}

/-- What the first token is, and what the others are read from. -/
theorem eq_cons (h : ofCharsFrom pos cs = token :: after) :
    (∃ c rest, c ≠ '\\' ∧ cs = c :: rest ∧ token = plain c pos ∧
      after = ofCharsFrom (pos + 1) rest) ∨
    (∃ c rest, cs = '\\' :: c :: rest ∧ token = escaped c pos ∧
      after = ofCharsFrom (pos + 2) rest) ∨
    (cs = ['\\'] ∧ token = trailing pos ∧ after = []) := by
  induction cs using reading_induction with
  | nil => cases h
  | trailing =>
    cases h
    exact .inr (.inr ⟨rfl, rfl, rfl⟩)
  | escaped c rest =>
    cases h
    exact .inr (.inl ⟨c, rest, rfl, rfl, rfl⟩)
  | plain c rest hc =>
    rw [ofCharsFrom_plain pos hc] at h
    cases h
    exact .inl ⟨c, rest, hc, rfl, rfl, rfl⟩

/-- In front of a token the format can be cut: the tokens from there on are those of the characters
from there on, and so they would be if other characters stood there. -/
theorem eq_append_cons (h : ofCharsFrom pos cs = before ++ token :: after) :
    ∃ front rest, cs = front ++ rest ∧ source before = Text.ofChars front ∧
      ofCharsFrom (pos + front.length) rest = token :: after ∧
      ∀ other, ofCharsFrom pos (front ++ other) =
        before ++ ofCharsFrom (pos + front.length) other := by
  induction before generalizing pos cs with
  | nil => exact ⟨[], cs, rfl, rfl, h, fun _ => rfl⟩
  | cons first before ih =>
    -- the first token takes the characters `taken`, whatever stands behind them
    have step : ∃ taken left, cs = taken ++ left ∧ first.raw = Text.ofChars taken ∧
        ofCharsFrom (pos + taken.length) left = before ++ token :: after ∧
        ∀ other, ofCharsFrom pos (taken ++ other) =
          first :: ofCharsFrom (pos + taken.length) other := by
      obtain ⟨c, left, hc, rfl, rfl, more⟩ | ⟨c, left, rfl, rfl, more⟩ | ⟨-, -, none⟩ := eq_cons h
      · exact ⟨[c], left, rfl, (Text.ofChars_singleton c).symm, more.symm, ofCharsFrom_plain pos hc⟩
      · exact ⟨['\\', c], left, rfl, rfl, more.symm, ofCharsFrom_escaped pos c⟩
      · exact absurd none (List.append_ne_nil_of_right_ne_nil before (List.cons_ne_nil _ _))
    obtain ⟨taken, left, rfl, raw, more, goesOn⟩ := step
    obtain ⟨front, rest, rfl, raws, tokens, cut⟩ := ih more
    refine ⟨taken ++ front, rest, (List.append_assoc ..).symm, ?_, ?_, fun other => ?_⟩
    · rw [source_cons, raw, raws, Text.ofChars_append]
    · rw [List.length_append, ← Nat.add_assoc, tokens]
    · rw [List.append_assoc, goesOn, cut, List.length_append, Nat.add_assoc]
      rfl

end Cuts

/-! ## The rules -/

/-- The rules for a token that stands behind the tokens `before` and in front of `after`. -/
structure Fits (token : Token) (before after : List Token) : Prop where
  /-- The position counts the characters that the tokens before were read from. -/
  pos_eq : token.pos = (source before).charCount
  /-- The text is one character. -/
  one_char : ∃ c, token.text = Text.ofChar c
  /-- An unescaped character stands for itself and is no backslash. -/
  unescaped : token.literal = false → token.raw = token.text ∧ token.text ≠ Text.ofChar '\\'
  /-- A literal is a backslash and a character; only the last token may be a lone backslash. -/
  escaped : token.literal = true → token.raw = Text.ofChar '\\' ++ token.text ∨
    after = [] ∧ token.text = Text.ofChar '\\' ∧ token.raw = Text.ofChar '\\'

theorem raw_escaped (c : Char) (pos : Nat) :
    (Token.escaped c pos).raw = Text.ofChar '\\' ++ Text.ofChar c := by
  show Text.ofChars ['\\', c] = _
  rw [Text.ofChars_cons, Text.ofChars_singleton]

/-- The rules allow three kinds of tokens. -/
theorem fits_iff (token : Token) (before after : List Token) :
    token.Fits before after ↔
      (∃ c, c ≠ '\\' ∧ token = plain c (source before).charCount) ∨
      (∃ c, token = Token.escaped c (source before).charCount) ∨
      (after = [] ∧ token = trailing (source before).charCount) := by
  constructor
  · obtain ⟨text, raw, literal, pos⟩ := token
    rintro ⟨pos_eq, ⟨c, text_eq⟩, unescaped, escaped⟩
    dsimp only at pos_eq text_eq unescaped escaped
    subst pos_eq text_eq
    cases literal with
    | false =>
      obtain ⟨rfl, other⟩ := unescaped rfl
      exact .inl ⟨c, fun same => other (congrArg Text.ofChar same), rfl⟩
    | true =>
      obtain rfl | ⟨last, text, rfl⟩ := escaped rfl
      · rw [← raw_escaped c 0]
        exact .inr (.inl ⟨c, rfl⟩)
      · obtain rfl : c = '\\' := Text.ofChar_injective text
        exact .inr (.inr ⟨last, rfl⟩)
  · rintro (⟨c, hc, rfl⟩ | ⟨c, rfl⟩ | ⟨last, rfl⟩)
    · refine ⟨rfl, ⟨c, rfl⟩, fun _ => ⟨rfl, fun same => hc (Text.ofChar_injective same)⟩, ?_⟩
      exact fun literal => Bool.noConfusion literal
    · exact ⟨rfl, ⟨c, rfl⟩, fun literal => Bool.noConfusion literal,
        fun _ => .inl (raw_escaped c _)⟩
    · exact ⟨rfl, ⟨'\\', rfl⟩, fun literal => Bool.noConfusion literal,
        fun _ => .inr ⟨last, rfl, rfl⟩⟩

/-- Every token of a format obeys the rules. -/
theorem fits_of_eq_append {cs : List Char} {token : Token} {before after : List Token}
    (h : ofCharsFrom 0 cs = before ++ token :: after) : token.Fits before after := by
  obtain ⟨front, rest, -, raws, tokens, -⟩ := eq_append_cons h
  have count : (source before).charCount = 0 + front.length := by
    rw [raws, Text.charCount_ofChars, Nat.zero_add]
  rw [fits_iff, count]
  obtain ⟨c, -, hc, -, first, -⟩ | ⟨c, -, -, first, -⟩ | ⟨-, first, last⟩ := eq_cons tokens
  · exact .inl ⟨c, hc, first⟩
  · exact .inr (.inl ⟨c, first⟩)
  · exact .inr (.inr ⟨last, first⟩)

/-- A token that obeys the rules is the first of the characters that it and the tokens behind it
were read from. -/
theorem Fits.ofCharsFrom_eq {token : Token} {before after : List Token} {cs : List Char}
    (fits : token.Fits before after) (whole : source (token :: after) = Text.ofChars cs) :
    ∃ taken rest, token.raw = Text.ofChars taken ∧ source after = Text.ofChars rest ∧
      ofCharsFrom (source before).charCount cs =
        token :: ofCharsFrom ((source before).charCount + taken.length) rest := by
  rw [source_cons] at whole
  obtain ⟨c, hc, rfl⟩ | ⟨c, rfl⟩ | ⟨rfl, rfl⟩ := (fits_iff ..).mp fits
  · have taken : (plain c (source before).charCount).raw = Text.ofChars [c] :=
      (Text.ofChars_singleton c).symm
    rw [taken] at whole
    obtain ⟨rest, rfl, left⟩ := Text.exists_of_ofChars_append whole
    exact ⟨[c], rest, taken, left, ofCharsFrom_plain _ hc rest⟩
  · obtain ⟨rest, rfl, left⟩ := Text.exists_of_ofChars_append whole
    exact ⟨['\\', c], rest, rfl, left, rfl⟩
  · have taken : (trailing (source before).charCount).raw = Text.ofChars ['\\'] := rfl
    rw [taken] at whole
    obtain ⟨rest, rfl, left⟩ := Text.exists_of_ofChars_append whole
    obtain rfl : [] = rest := Text.ofChars_injective left
    exact ⟨['\\'], [], taken, left, rfl⟩

/-- **The rules leave no choice**: behind tokens `done` that were read from `passed`, tokens that
obey the rules are those of the characters they were read from. -/
theorem eq_ofCharsFrom {done tokens : List Token} {passed cs : List Char}
    (fits : ∀ before token after, done ++ tokens = before ++ token :: after →
      token.Fits before after)
    (before : source done = Text.ofChars passed) (whole : source tokens = Text.ofChars cs) :
    tokens = ofCharsFrom passed.length cs := by
  induction tokens generalizing done passed cs with
  | nil =>
    obtain rfl : [] = cs := Text.ofChars_injective whole
    rfl
  | cons token rest ih =>
    obtain ⟨taken, left, raw, others, first⟩ := (fits done token rest rfl).ofCharsFrom_eq whole
    have passedOn : source (done ++ [token]) = Text.ofChars (passed ++ taken) := by
      rw [source_append, before, source_singleton, raw, Text.ofChars_append]
    have more := ih (by simpa using fits) passedOn others
    rw [before, Text.charCount_ofChars] at first
    rw [first, ← List.length_append, ← more]

/-! ## Formats -/

/-- **Tokens are the one partition of a format.** The tokens of a format are those that give the
format back, with U+FFFD in place of stray bytes, and that obey the rules for tokens in their
places, and no others. A format without stray bytes is given back as it is. -/
theorem tokenize_unique_partition (format : Text) (tokens : List Token) :
    (tokens = tokenize format ↔
      format.Repaired (source tokens) ∧
      ∀ before token after, tokens = before ++ token :: after → token.Fits before after) ∧
    (format.isUtf8 = true → source (tokenize format) = format) := by
  refine ⟨⟨?_, ?_⟩, fun valid => ?_⟩
  · rintro rfl
    refine ⟨?_, fun before token after => fits_of_eq_append⟩
    rw [Text.repaired_iff]
    exact source_ofCharsFrom 0 format.chars
  · rintro ⟨repaired, fits⟩
    rw [Text.repaired_iff] at repaired
    have start : source [] = Text.ofChars [] := rfl
    rw [← List.nil_append tokens] at fits
    exact eq_ofCharsFrom fits start repaired
  · rw [← Text.ofChars_chars valid]
    exact (source_ofCharsFrom 0 _).trans (by rw [Text.chars_ofChars])

/-- An escaped backslash, a character of two bytes, a stray byte, an escape and a backslash at the
end. -/
theorem tokenize_unique_partition_example :
    let format : Text := Text.ofChars ['\\', '\\', 'é'] ++ 0xFF :: Text.ofChars ['\\', 'T', '\\']
    let before := [Token.escaped '\\' 0, plain 'é' 2, plain Symbol.replacement 3,
      Token.escaped 'T' 4]
    tokenize format = before ++ [trailing 6] ∧
    format.Repaired (source (before ++ [trailing 6])) ∧ (trailing 6).Fits before [] ∧
    source (tokenize (Text.ofChars ['é', '\\'])) = Text.ofChars ['é', '\\'] := by
  intro format before
  have computed : before ++ [trailing 6] = tokenize format := by decide
  obtain ⟨repaired, fits⟩ := (tokenize_unique_partition format _).1.mp computed
  have valid : (Text.ofChars ['é', '\\']).isUtf8 = true := by decide
  exact ⟨computed.symm, repaired, fits before (trailing 6) [] rfl,
    (tokenize_unique_partition (Text.ofChars ['é', '\\']) []).2 valid⟩

end Token

end DatePattern
