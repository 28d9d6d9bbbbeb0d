import DatePattern.Output.Explained
import DatePattern.Proofs.Number.Decimal
import DatePattern.Proofs.Pattern.Composition

/-!
# The table of an explained format

Each row of the table shows one token: where it stands, and its character with a backslash before
it when it was escaped. The text that the token was read from is not at hand there, so the cell is
rebuilt; for a backslash at the very end of a format, which escapes nothing, it comes out one byte
too long.

- `Token.cell`: what the table shows of a token;
- `Token.flatMap_cell`: all the cells, by induction over the ways a format can start. Only the
  parity of the backslashes at the end is carried along;
- `Token.cell_of_followed`: a token with another one behind it is shown as it was read, so positions
  count what is shown before them;
- `Output.Explained.accepted`, `Output.explain_accepted`: an explanation as one equation.
-/

namespace DatePattern

/-! ## Cells -/

namespace Token

/-- A token as the table shows it. -/
def cell (token : Token) : Text := if token.literal then "\\" ++ token.text else token.text

theorem cell_plain (c : Char) (pos : Nat) : (plain c pos).cell = (plain c pos).raw := rfl

theorem cell_escaped (c : Char) (pos : Nat) : (escaped c pos).cell = (escaped c pos).raw :=
  (raw_escaped c pos).symm

/-- **What the cells show**: the format, and one backslash more when it ends inside an escape. -/
theorem flatMap_cell (pos : Nat) (cs : List Char) :
    (ofCharsFrom pos cs).flatMap cell =
      Text.ofChars cs ++ (if Even (backslashRun cs.reverse) then [] else "\\" : Text) := by
  induction cs using reading_induction generalizing pos with
  | nil => rfl
  | trailing => rfl
  | escaped c rest ih =>
    have ends : Even (backslashRun ('\\' :: c :: rest).reverse) ↔
        Even (backslashRun rest.reverse) := by
      rw [List.reverse_cons, List.reverse_cons, List.append_assoc]
      exact even_backslashRun_append (Pattern.even_backslashRun_escaped c Even.zero) _
    rw [ofCharsFrom_escaped, List.flatMap_cons, cell_escaped, ih, ← List.append_assoc]
    simp only [ends]
    congr 1
    exact (Text.ofChars_append ['\\', c] rest).symm
  | plain c rest hc ih =>
    have ends : Even (backslashRun (c :: rest).reverse) ↔ Even (backslashRun rest.reverse) := by
      rw [List.reverse_cons]
      exact even_backslashRun_append (Pattern.even_backslashRun_plain hc []) _
    rw [ofCharsFrom_plain pos hc, List.flatMap_cons, cell_plain, ih, ← List.append_assoc]
    simp only [ends]
    congr 1

/-- A token with another one behind it is shown as it was read. -/
theorem cell_of_followed {cs : List Char} {before after : List Token} {token : Token}
    (h : ofCharsFrom 0 cs = before ++ token :: after) : ∀ t ∈ before, t.cell = t.raw := by
  intro t mem
  obtain ⟨front, behind, rfl⟩ := List.append_of_mem mem
  have fits : t.Fits front (behind ++ token :: after) := fits_of_eq_append (by simpa using h)
  obtain ⟨c, -, rfl⟩ | ⟨c, rfl⟩ | ⟨last, -⟩ := (fits_iff ..).mp fits
  · exact cell_plain c _
  · exact cell_escaped c _
  · simp at last

/-- Positions count the characters that are shown before them. -/
theorem pos_eq_charCount {cs : List Char} {before after : List Token} {token : Token}
    (h : ofCharsFrom 0 cs = before ++ token :: after) :
    token.pos = Text.charCount (before.flatMap cell) := by
  have shown : before.flatMap cell = source before := List.flatMap_congr (cell_of_followed h)
  rw [shown]
  exact (fits_of_eq_append h).pos_eq

end Token

namespace Output

/-! ## Explanations -/

/-- The explanation of a format that is accepted. -/
def Explained.accepted (g : Grammar) (engine : Engine) (subject format : Text) : Explained where
  dialect := g.name
  format := format
  steps := (Token.tokenize format).map fun token => Step.ofResolution (.decided engine token)
  pieces := (Explanation.accepted engine format).fragments.map (Piece.ofFragment g subject)
  sql := emit g subject (Explanation.accepted engine format).fragments

theorem explain_accepted {g : Grammar} {engine : Engine} (kind : g.kind = engine.kind)
    (subject : SqlExpr) {format : Text} (accepted : Pattern.validate format = .ok ()) :
    explain g subject format = .ok (.accepted g engine (subject.render g) format) := by
  rw [explain, kind, explain_eq, accepted]
  show Except.ok _ = Except.ok _
  rw [Explained.accepted, Explanation.accepted, List.map_map]
  rfl

/-- The characters that rows of the table show, one behind the other. -/
def shown (rows : List (List Text)) : Text := rows.flatMap fun row => Table.cellAt row 1

/-- The row of a token. -/
def rowOf (engine : Engine) (token : Token) : List Text :=
  (Step.ofResolution (.decided engine token)).row

theorem pos_rowOf (engine : Engine) (token : Token) :
    Table.cellAt (rowOf engine token) 0 = Decimal.ofInt token.pos := by
  show Decimal.ofInt (Resolution.decided engine token).token.pos = _
  rw [Resolution.token_decided]

theorem char_rowOf (engine : Engine) (token : Token) :
    Table.cellAt (rowOf engine token) 1 = token.cell := by
  show (if (Resolution.decided engine token).token.literal then
    "\\" ++ (Resolution.decided engine token).token.text
    else (Resolution.decided engine token).token.text) = _
  rw [Resolution.token_decided, Token.cell]

theorem shown_rowOf (engine : Engine) (tokens : List Token) :
    shown (tokens.map (rowOf engine)) = tokens.flatMap Token.cell := by
  rw [shown, List.flatMap_map]
  exact List.flatMap_congr fun token _ => char_rowOf engine token

theorem rows_accepted (g : Grammar) (engine : Engine) (subject format : Text) :
    (Explained.accepted g engine subject format).table.rows
      = (Token.tokenize format).map (rowOf engine) := by
  show ((Token.tokenize format).map _).map Step.row = _
  rw [List.map_map]
  rfl

/-- **The table shows the format, but for a backslash at its end.** On a dialect of an engine every
accepted format is explained. The characters of the rows, with their backslashes, give the format
back exactly when it ends in an even number of backslashes, and otherwise have one backslash too
many. The position in a row is the number of the characters shown before it, always. -/
theorem table_shows_format_iff (g : Grammar) (valid : g.kind.isValid = true) (subject : SqlExpr)
    (format : Text) (accepted : Pattern.validate format = .ok ()) :
    ∃ explained, explain g subject format = .ok explained ∧
      (shown explained.table.rows = format ↔ Even (backslashRun format.chars.reverse)) ∧
      (¬ Even (backslashRun format.chars.reverse) →
        shown explained.table.rows = format ++ ("\\" : Text)) ∧
      ∀ before row after, explained.table.rows = before ++ row :: after →
        Table.cellAt row 0 = Decimal.ofNat (shown before).charCount := by
  obtain ⟨engine, kind⟩ := Kind.eq_kind_of_isValid valid
  have cells : shown ((Token.tokenize format).map (rowOf engine)) =
      format ++ (if Even (backslashRun format.chars.reverse) then [] else "\\" : Text) := by
    rw [shown_rowOf, Token.tokenize, Token.flatMap_cell,
      Text.ofChars_chars (Pattern.isUtf8_of_accepted accepted)]
  refine ⟨_, explain_accepted kind subject accepted, ?_⟩
  rw [rows_accepted, cells]
  refine ⟨?_, ?_, ?_⟩
  · by_cases even : Even (backslashRun format.chars.reverse)
    · simp [even]
    · rw [if_neg even]
      refine iff_of_false (fun same => ?_) even
      exact List.cons_ne_nil _ _ (List.append_right_eq_self.mp same)
  · intro odd
    rw [if_neg odd]
  · intro before row after rows
    obtain ⟨first, rest, tokens, rfl, others⟩ := List.map_eq_append_iff.mp rows
    obtain ⟨token, last, rfl, rfl, rfl⟩ := List.map_eq_cons_iff.mp others
    rw [pos_rowOf, shown_rowOf, Token.pos_eq_charCount tokens]
    exact Decimal.ofInt_natCast _

/-- A backslash between others, one before a letter and one more at the end: the table shows two
there, and the position of its row is still right. -/
theorem table_shows_format_iff_escapes :
    Engine.mysql.grammar.kind.isValid = true ∧
    Pattern.validate "Y\\\\é\\T\\" = .ok () ∧
    ∃ explained, explain Engine.mysql.grammar (.column "created_at") "Y\\\\é\\T\\" = .ok explained ∧
      shown explained.table.rows = "Y\\\\é\\T\\\\" ∧
      ∀ before row after, explained.table.rows = before ++ row :: after →
        Table.cellAt row 0 = Decimal.ofNat (shown before).charCount := by
  have accepted : Pattern.validate "Y\\\\é\\T\\" = .ok () := by decide
  obtain ⟨explained, runs, -, trailing, positions⟩ :=
    table_shows_format_iff Engine.mysql.grammar rfl (.column "created_at") _ accepted
  exact ⟨rfl, accepted, explained, runs, trailing (by decide), positions⟩

/-- A format that is one backslash is shown as two. -/
theorem trailing_backslash_shown_twice :
    Pattern.validate "\\" = .ok () ∧
    ∃ explained, explain Engine.sqlite.grammar (.column "created_at") "\\" = .ok explained ∧
      shown explained.table.rows = "\\\\" ∧ shown explained.table.rows ≠ "\\" :=
  ⟨by decide, _, rfl, by decide, by decide⟩

end Output

end DatePattern
