import DatePattern.Dialect.Grammar
import DatePattern.Proofs.Text.Replace

/-!
# Quoted text, byte by byte

Strings and identifiers are quoted by replacing in the whole text. Here both are given as a map
over bytes, which is the form that a reader of the quoted text follows:

- `Grammar.string_eq`: a string is its bytes, each doubled where the grammar escapes it;
- `Engine.identifier_eq`: an identifier is its bytes, the closing quote doubled.
-/

namespace DatePattern

/-! ## Strings -/

namespace Grammar

/-- A byte as it stands in a string literal. -/
def stringByte (g : Grammar) (b : UInt8) : Text :=
  if b = 0x27 then [0x27, 0x27] else if g.backslash ∧ b = 0x5C then [0x5C, 0x5C] else [b]

theorem string_eq (g : Grammar) (text : Text) :
    g.string text = 0x27 :: (text.flatMap g.stringByte ++ [0x27]) := by
  have inside : (if g.backslash then text.replaceByte 0x5C [0x5C, 0x5C] else text).replaceByte
      0x27 [0x27, 0x27] = text.flatMap g.stringByte := by
    induction text with
    | nil => cases g.backslash <;> rfl
    | cons b text ih =>
      rw [List.flatMap_cons, ← ih, stringByte]
      cases g.backslash with
      | false => simp [Text.replaceByte_cons]
      | true =>
        simp only [if_true, true_and, Text.replaceByte_cons, Text.replaceByte_append]
        congr 1
        by_cases hq : b = 0x27
        · simp [hq, Text.replaceByte_cons, Text.replaceByte_nil]
        · by_cases hb : b = 0x5C
          · simp [hb, Text.replaceByte_cons, Text.replaceByte_nil]
          · simp [hq, hb, Text.replaceByte_cons, Text.replaceByte_nil]
  rw [string, inside]
  rfl

end Grammar

/-! ## Identifiers -/

/-- What closes a quoted identifier of an engine. -/
def Engine.endQuote : Engine → UInt8
  | .mysql => 0x60
  | .sqlite | .postgres => 0x22
  | .sqlserver => 0x5D

/-- A byte as it stands in a quoted identifier of an engine. -/
def Engine.identifierByte (engine : Engine) (b : UInt8) : Text :=
  if b = engine.endQuote then [engine.endQuote, engine.endQuote] else [b]

theorem Engine.identifier_eq (engine : Engine) (name : Text) :
    engine.grammar.identifier name
      = engine.grammar.opening ++ (name.flatMap engine.identifierByte ++ [engine.endQuote]) := by
  have closing : engine.grammar.closing = [engine.endQuote] := by cases engine <;> rfl
  have escape : engine.grammar.escape = [engine.endQuote, engine.endQuote] := by
    cases engine <;> rfl
  have inside : engine.grammar.escaped name = name.flatMap engine.identifierByte := by
    rw [Grammar.escaped, closing, escape, if_neg (by simp), Text.replace_singleton]
    rfl
  rw [Grammar.identifier, inside, closing, List.append_assoc]

end DatePattern
