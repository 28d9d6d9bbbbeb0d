import DatePattern.Proofs.Text.Utf8
import DatePattern.Text.Case

/-!
# Case folding and trimming

Names are matched after their case is folded, sometimes after white space is taken off their
ends, and a command is told from a format by its first byte. What these have to do with each
other is settled here, over all characters:

- `Text.ofSymbols_symbols`: decoding a text into symbols loses nothing;
- `CharClass.lower_of_isBlank`: white space has no case;
- `CharClass.eq_of_lower_eq`: a character below the letters is the lower case of itself only;
- `Text.trim_of_lower`: a text whose lower case holds no white space has none to trim;
- `Text.head?_of_chars`: a text that reads as an ASCII character first starts with its byte.
-/

namespace DatePattern

/-! ## Symbols -/

namespace Utf8

theorem eq_of_first_eq_stray {a b : UInt8} {rest : Text} (h : first a rest = .stray b) :
    b = a := by
  unfold first at h
  repeat' split at h
  all_goals cases h
  all_goals rfl

end Utf8

namespace Text

open Utf8

/-- **Decoding loses nothing**: the symbols of a text are written back as the text. -/
@[simp] theorem ofSymbols_symbols (text : Text) : ofSymbols text.symbols = text := by
  induction text using decode_induction with
  | nil => rfl
  | char c rest ih =>
    rw [symbols, symbolsFrom_encode, ofSymbols, List.flatMap_cons]
    exact congrArg _ ih
  | stray b rest h ih =>
    obtain ⟨a, hf⟩ := (stray_iff b rest).mp h
    rw [symbols, symbolsFrom, hf, eq_of_first_eq_stray hf, ofSymbols, List.flatMap_cons]
    exact congrArg _ ih

/-- A text that reads as an ASCII character first starts with the byte of that character. -/
theorem head?_of_chars {text : Text} {c : Char} {cs : List Char} (h : text.chars = c :: cs)
    (ascii : c.toNat < 0x80) : text.head? = some (UInt8.ofNat c.toNat) := by
  induction text using decode_induction with
  | nil => cases h
  | char d rest =>
    obtain rfl : d = c := (List.cons.inj ((chars_ofChar_append d rest).symm.trans h)).1
    show (ofChar d ++ rest).head? = _
    rw [ofChar_of_ascii ascii]
    rfl
  | stray b rest stray =>
    -- a stray byte reads as U+FFFD
    rw [chars_stray stray, List.cons.injEq] at h
    rw [← h.1] at ascii
    exact absurd ascii (show ¬ Symbol.replacement.toNat < 0x80 by decide)

end Text

/-! ## Lower case -/

namespace CharClass

/-- A code point that lies in none of the progressions does not move. -/
theorem shiftOf_eq_zero {progressions : List (Nat × Nat × Nat × Int)} {n : Nat}
    (h : ∀ p ∈ progressions, n < p.1 ∨ p.2.1 < n) : shiftOf progressions n = 0 := by
  induction progressions with
  | nil => rfl
  | cons p rest ih =>
    obtain ⟨first, others⟩ := List.forall_mem_cons.mp h
    have outside : ¬ (p.1 ≤ n ∧ n ≤ p.2.1) := by omega
    rw [shiftOf, if_neg, ih others]
    simp only [Bool.and_eq_true, decide_eq_true_eq]
    exact fun inside => outside inside.1

/-- A code point that moves lies in the progression that it moves by. -/
theorem exists_progression {progressions : List (Nat × Nat × Nat × Int)} {n : Nat}
    (h : shiftOf progressions n ≠ 0) :
    ∃ p ∈ progressions, p.1 ≤ n ∧ n ≤ p.2.1 ∧ shiftOf progressions n = p.2.2.2 := by
  induction progressions with
  | nil => exact absurd rfl h
  | cons p rest ih =>
    by_cases inside : (decide (p.1 ≤ n) && decide (n ≤ p.2.1) && (n - p.1) % p.2.2.1 == 0) = true
    · have moved : shiftOf (p :: rest) n = p.2.2.2 := by rw [shiftOf, if_pos inside]
      simp only [Bool.and_eq_true, decide_eq_true_eq] at inside
      exact ⟨p, List.mem_cons_self, inside.1.1, inside.1.2, moved⟩
    · have same : shiftOf (p :: rest) n = shiftOf rest n := by rw [shiftOf, if_neg inside]
      rw [same] at h ⊢
      obtain ⟨q, mem, hq⟩ := ih h
      exact ⟨q, List.mem_cons_of_mem p mem, hq⟩

theorem shifted_of_shiftOf_eq_zero {progressions : List (Nat × Nat × Nat × Int)} {c : Char}
    (h : shiftOf progressions c.toNat = 0) : shifted progressions c = c := by
  rw [shifted, h, Int.add_zero, Int.toNat_natCast, Char.ofNat_toNat]

/-- Where white space lies. -/
theorem toNat_of_isBlank {c : Char} (h : isBlank c = true) :
    c.toNat ≤ 0x20 ∨ c.toNat = 0x85 ∨ c.toNat = 0xA0 ∨ c.toNat = 0x1680 ∨
      (0x2000 ≤ c.toNat ∧ c.toNat ≤ 0x205F) ∨ c.toNat = 0x3000 := by
  simp only [isBlank, within, List.any_cons, List.any_nil, Bool.or_false, Bool.or_eq_true,
    Bool.and_eq_true, decide_eq_true_eq] at h
  omega

set_option maxRecDepth 4000 in
/-- No progression reaches into the places of white space above ASCII. -/
theorem lowerShifts_avoid_blanks : ∀ p ∈ lowerShifts, 0xA0 < p.1 ∧
    (p.2.1 < 0x1680 ∨ 0x1680 < p.1) ∧ (p.2.1 < 0x2000 ∨ 0x205F < p.1) ∧
    (p.2.1 < 0x3000 ∨ 0x3000 < p.1) := by
  decide

/-- **White space has no case.** -/
theorem lower_of_isBlank {c : Char} (h : isBlank c = true) : lower c = c := by
  have place := toNat_of_isBlank h
  unfold lower
  split
  · next ascii =>
    have low : c.toNat ≤ 0x20 := by omega
    unfold Char.toLower
    rw [dif_neg]
    rintro ⟨letter, -⟩
    have : 65 ≤ c.toNat := letter
    omega
  · next above =>
    refine shifted_of_shiftOf_eq_zero (shiftOf_eq_zero fun p mem => ?_)
    have avoids := lowerShifts_avoid_blanks p mem
    omega

set_option maxRecDepth 4000 in
/-- Progressions lead to characters, and to none below the letters. -/
theorem lowerShifts_range : ∀ p ∈ lowerShifts, 0x41 ≤ (p.1 : Int) + p.2.2.2 ∧
    ((p.2.1 : Int) + p.2.2.2 < 0xD800 ∨
      (0xDFFF < (p.1 : Int) + p.2.2.2 ∧ (p.2.1 : Int) + p.2.2.2 < 0x110000)) := by
  decide

/-- The lower case of a character above ASCII is no character below the letters. -/
theorem le_toNat_shifted {c : Char} (above : 0x80 ≤ c.toNat) :
    0x41 ≤ (shifted lowerShifts c).toNat := by
  by_cases still : shiftOf lowerShifts c.toNat = 0
  · rw [shifted_of_shiftOf_eq_zero still]
    omega
  · obtain ⟨p, mem, low, high, moved⟩ := exists_progression still
    have range := lowerShifts_range p mem
    have valid : (c.toNat + shiftOf lowerShifts c.toNat).toNat < 0xD800 ∨
        (0xDFFF < (c.toNat + shiftOf lowerShifts c.toNat).toNat ∧
          (c.toNat + shiftOf lowerShifts c.toNat).toNat < 0x110000) := by
      omega
    have value : (shifted lowerShifts c).toNat
        = (c.toNat + shiftOf lowerShifts c.toNat).toNat :=
      Utf8.toNat_ofNat_scalar valid
    omega

/-- A character below the letters is the lower case of itself only. -/
theorem eq_of_lower_eq {c d : Char} (h : lower c = d) (below : d.toNat < 0x41) : c = d := by
  unfold lower at h
  split at h
  · next ascii =>
    unfold Char.toLower at h
    split at h
    · next letter =>
      -- a letter becomes a letter
      have low : 65 ≤ c.toNat := letter.1
      have high : c.toNat ≤ 90 := letter.2
      have value : d.toNat = c.toNat + 32 := by
        rw [← h]
        show (c.val + 32).toNat = c.val.toNat + 32
        have : c.val.toNat = c.toNat := rfl
        rw [UInt32.toNat_add]
        show (c.val.toNat + 32) % 2 ^ 32 = c.val.toNat + 32
        omega
      omega
    · exact h
  · next above =>
    have := le_toNat_shifted (Nat.le_of_not_lt above)
    rw [h] at this
    omega

end CharClass

namespace Text

@[simp] theorem chars_lower (text : Text) :
    text.lower.chars = text.chars.map CharClass.lower := chars_ofChars _

/-! ## Trimming -/

theorem trim_eq_self {text : Text} (h : ∀ s ∈ text.symbols, isBlankSymbol s = false) :
    text.trim = text := by
  have front : text.symbols.dropWhile isBlankSymbol = text.symbols := by
    cases hs : text.symbols with
    | nil => rfl
    | cons s rest =>
      rw [List.dropWhile_cons_of_neg]
      rw [h s (hs ▸ List.mem_cons_self)]
      exact Bool.false_ne_true
  have back : text.symbols.reverse.dropWhile isBlankSymbol = text.symbols.reverse := by
    cases hs : text.symbols.reverse with
    | nil => rfl
    | cons s rest =>
      rw [List.dropWhile_cons_of_neg]
      rw [h s (List.mem_reverse.mp (hs ▸ List.mem_cons_self))]
      exact Bool.false_ne_true
  rw [trim, front, back, List.reverse_reverse, ofSymbols_symbols]

/-- **Nothing to trim**: when the lower case of a text holds no white space, neither does the
text. -/
theorem trim_of_lower {text : Text}
    (h : ∀ c ∈ text.lower.chars, CharClass.isBlank c = false) : text.trim = text := by
  refine trim_eq_self fun s mem => ?_
  cases s with
  | stray b => rfl
  | char c =>
    by_contra blank
    rw [Bool.not_eq_false] at blank
    have folded : CharClass.lower c = c := CharClass.lower_of_isBlank blank
    have found : c ∈ text.lower.chars := by
      rw [chars_lower, chars, List.map_map]
      exact List.mem_map.mpr ⟨.char c, mem, folded⟩
    exact Bool.false_ne_true ((h c found).symm.trans blank)

end Text

end DatePattern
