import DatePattern.Proofs.Number.Decimal
import DatePattern.Proofs.Text.Order

/-!
# Numerals of a fixed width

Numerals that are padded to one width sort as their numbers do:

- `fixed`: the last digits of a number, as many as the width says. `padLeft_eq_fixed`: that is the
  padded numeral of a number that fits;
- `padLeft_lt_padLeft`, `padLeft_append_lt`: the order, also in front of other text;
- `length_ofNat_le_iff`: how many digits a number has.
-/

namespace DatePattern.Decimal

/-- The last `width` digits of a number, with zeros in front. -/
def fixed : (width : Nat) → Nat → Text
  | 0, _ => []
  | width + 1, n => fixed width (n / 10) ++ [digit (n % 10)]

theorem length_fixed (width n : Nat) : (fixed width n).length = width := by
  induction width generalizing n with
  | zero => rfl
  | succ width ih => rw [fixed, List.length_append, ih, List.length_singleton]

theorem fixed_zero (width : Nat) : fixed width 0 = Text.repeated width 0x30 := by
  induction width with
  | zero => rfl
  | succ width ih =>
    rw [fixed, Nat.zero_div, ih, Text.repeated, Text.repeated, List.replicate_succ']
    rfl

theorem padLeft_concat (width : Nat) (text : Text) (b : UInt8) :
    padLeft (width + 1) (text ++ [b]) = padLeft width text ++ [b] := by
  rw [padLeft, padLeft, List.length_append, List.length_singleton, Nat.add_sub_add_right,
    List.append_assoc]

/-- Padding a number that fits writes all its digits. -/
theorem padLeft_eq_fixed {width n : Nat} (positive : 0 < width) (fits : n < 10 ^ width) :
    padLeft width (ofNat n) = fixed width n := by
  induction width generalizing n with
  | zero => exact absurd positive (Nat.lt_irrefl 0)
  | succ width ih =>
    by_cases small : n < 10
    · have padded := padLeft_concat width [] (digit n)
      rw [List.nil_append] at padded
      rw [ofNat_of_lt small, padded, fixed, Nat.div_eq_of_lt small, Nat.mod_eq_of_lt small,
        fixed_zero, padLeft, List.append_nil]
      rfl
    · rw [pow_succ] at fits
      have some : 0 < width := by
        by_contra none
        rw [Nat.eq_zero_of_not_pos none, pow_zero] at fits
        omega
      rw [ofNat_eq (by omega), padLeft_concat, fixed, ih some (by omega)]

/-! ## Order -/

theorem digit_lt_digit {n m : Nat} (lt : n < m) (high : m < 10) : digit n < digit m := by
  have value : ∀ {k : Nat}, k < 10 → (digit k).toNat = 0x30 + k := by
    intro k hk
    exact UInt8.toNat_ofNat_of_lt' (show 0x30 + k < 256 by omega)
  rw [UInt8.lt_iff_toNat_lt, value (by omega), value high]
  omega

theorem fixed_lt_fixed {width n m : Nat} (lt : n < m) (fits : m < 10 ^ width) :
    fixed width n < fixed width m := by
  induction width generalizing n m with
  | zero =>
    rw [pow_zero] at fits
    omega
  | succ width ih =>
    rw [pow_succ] at fits
    rw [fixed, fixed]
    by_cases front : n / 10 < m / 10
    · refine Text.append_lt_append (ih front (by omega)) ?_ _ _
      rw [length_fixed, length_fixed]
    · have same : n / 10 = m / 10 := by omega
      rw [same]
      exact List.append_left_lt (List.Lex.rel (digit_lt_digit (by omega) (by omega)))

/-- **Padded numerals sort as numbers.** -/
theorem padLeft_lt_padLeft {width n m : Nat} (positive : 0 < width) (lt : n < m)
    (fits : m < 10 ^ width) : padLeft width (ofNat n) < padLeft width (ofNat m) := by
  rw [padLeft_eq_fixed positive (by omega), padLeft_eq_fixed positive fits]
  exact fixed_lt_fixed lt fits

theorem length_padLeft {width n : Nat} (positive : 0 < width) (fits : n < 10 ^ width) :
    (padLeft width (ofNat n)).length = width := by
  rw [padLeft_eq_fixed positive fits, length_fixed]

/-- In front of other text, padded numerals are compared first. -/
theorem padLeft_append_lt {width n m : Nat} (positive : 0 < width) (hn : n < 10 ^ width)
    (hm : m < 10 ^ width) {a b : Text} (h : n < m ∨ n = m ∧ a < b) :
    padLeft width (ofNat n) ++ a < padLeft width (ofNat m) ++ b := by
  rcases h with lt | ⟨rfl, lt⟩
  · refine Text.append_lt_append (padLeft_lt_padLeft positive lt hm) ?_ a b
    rw [length_padLeft positive hn, length_padLeft positive hm]
  · exact List.append_left_lt lt

/-! ## The number of digits -/

/-- A number has at most as many digits as its power of ten says. -/
theorem length_ofNat_le_iff {width n : Nat} (positive : 0 < width) :
    (ofNat n).length ≤ width ↔ n < 10 ^ width := by
  induction width generalizing n with
  | zero => exact absurd positive (Nat.lt_irrefl 0)
  | succ width ih =>
    by_cases small : n < 10
    · have power : 10 ≤ 10 ^ (width + 1) := Nat.le_self_pow (Nat.succ_ne_zero width) 10
      rw [ofNat_of_lt small]
      exact iff_of_true (Nat.le_add_left 1 width) (by omega)
    · rw [ofNat_eq (by omega), List.length_append, List.length_singleton, Nat.add_le_add_iff_right,
        pow_succ, ← Nat.div_lt_iff_lt_mul (by decide)]
      by_cases none : width = 0
      · -- the digits in front of the last are not none
        have nonempty := List.length_pos_of_ne_nil (ofNat_ne_nil (n / 10))
        rw [none, pow_zero]
        omega
      · exact ih (Nat.pos_of_ne_zero none)

theorem length_padLeft_eq_max (width : Nat) (text : Text) :
    (padLeft width text).length = max width text.length := by
  rw [padLeft, List.length_append, Text.repeated, List.length_replicate]
  omega

/-- A text that has the width stays as it is. -/
theorem padLeft_of_le {width : Nat} {text : Text} (wide : width ≤ text.length) :
    padLeft width text = text := by
  rw [padLeft, Nat.sub_eq_zero_of_le wide]
  rfl

end DatePattern.Decimal
