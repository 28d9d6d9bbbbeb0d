import DatePattern.Number.Decimal
import Mathlib.Tactic

/-!
# Decimal numerals

- `isDigit_ofNat`, `ofNat_ne_nil`: a numeral is a non-empty run of digits;
- `ofNat_eq`: its last digit is the remainder by ten, and the others are the numeral of the
  quotient. The fuel of the definition does not show;
- `toNat?_padLeft_ofNat`: a numeral reads back as its number, also behind zeros;
- `padLeft_two`, `ofNat_four`: the digits of short numerals.
-/

namespace DatePattern.Decimal

/-! ## Digits -/

theorem isDigit_digit {n : Nat} (h : n < 10) : isDigit (digit n) = true := by
  interval_cases n <;> rfl

theorem digitValue_digit {n : Nat} (h : n < 10) : digitValue (digit n) = n := by
  interval_cases n <;> rfl

theorem digit_injective {n m : Nat} (hn : n < 10) (hm : m < 10) (same : digit n = digit m) :
    n = m := by
  rw [← digitValue_digit hn, same, digitValue_digit hm]

theorem isDigit_ofNatFuel (fuel n : Nat) : ∀ b ∈ ofNatFuel fuel n, isDigit b = true := by
  induction fuel generalizing n with
  | zero =>
    intro b mem
    rw [ofNatFuel, List.mem_singleton] at mem
    exact mem ▸ isDigit_digit (Nat.mod_lt n (by decide))
  | succ fuel ih =>
    intro b mem
    rw [ofNatFuel] at mem
    split_ifs at mem with hn
    · exact List.mem_singleton.mp mem ▸ isDigit_digit hn
    · rcases List.mem_append.mp mem with front | last
      · exact ih (n / 10) b front
      · exact List.mem_singleton.mp last ▸ isDigit_digit (Nat.mod_lt n (by decide))

theorem isDigit_ofNat (n : Nat) : ∀ b ∈ ofNat n, isDigit b = true := isDigit_ofNatFuel n n

/-! ## Numerals digit by digit -/

/-- Fuel beyond the number itself makes no difference. -/
theorem ofNatFuel_eq_ofNat {fuel n : Nat} (h : n ≤ fuel) : ofNatFuel fuel n = ofNat n := by
  suffices ∀ more fuel n, n ≤ fuel → n ≤ more → ofNatFuel fuel n = ofNatFuel more n from
    this n fuel n h le_rfl
  intro more
  induction more with
  | zero =>
    intro fuel n _ hm
    obtain rfl := Nat.le_zero.mp hm
    cases fuel <;> rfl
  | succ more ih =>
    intro fuel n hf hm
    cases fuel with
    | zero =>
      obtain rfl := Nat.le_zero.mp hf
      rfl
    | succ fuel =>
      rw [ofNatFuel, ofNatFuel]
      by_cases hn : n < 10
      · rw [if_pos hn, if_pos hn]
      · rw [if_neg hn, if_neg hn, ih fuel (n / 10) (by omega) (by omega)]

theorem ofNat_of_lt {n : Nat} (h : n < 10) : ofNat n = [digit n] := by
  interval_cases n <;> rfl

theorem ofNat_eq {n : Nat} (h : 10 ≤ n) : ofNat n = ofNat (n / 10) ++ [digit (n % 10)] := by
  obtain ⟨m, rfl⟩ : ∃ m, n = m + 1 := ⟨n - 1, by omega⟩
  rw [ofNat, ofNatFuel, if_neg (by omega), ofNatFuel_eq_ofNat (by omega)]

theorem ofNat_ne_nil (n : Nat) : ofNat n ≠ [] := by
  by_cases h : n < 10
  · rw [ofNat_of_lt h]
    exact List.cons_ne_nil _ _
  · rw [ofNat_eq (by omega)]
    exact List.append_ne_nil_of_right_ne_nil _ (List.cons_ne_nil _ _)

/-! ## Reading back -/

theorem valueFrom_append (value : Nat) (a b : Text) :
    valueFrom value (a ++ b) = valueFrom (valueFrom value a) b := by
  induction a generalizing value with
  | nil => rfl
  | cons x a ih => exact ih _

theorem valueFrom_singleton (value : Nat) (b : UInt8) :
    valueFrom value [b] = value * 10 + digitValue b := rfl

theorem valueFrom_repeated (k : Nat) (rest : Text) :
    valueFrom 0 (Text.repeated k 0x30 ++ rest) = valueFrom 0 rest := by
  induction k with
  | zero => rfl
  | succ k ih =>
    rw [Text.repeated, List.replicate_succ]
    exact ih

theorem valueFrom_ofNat (n : Nat) : valueFrom 0 (ofNat n) = n := by
  induction n using Nat.strongRecOn with
  | ind n ih =>
    by_cases h : n < 10
    · rw [ofNat_of_lt h, valueFrom_singleton, digitValue_digit h]
      omega
    · rw [ofNat_eq (by omega), valueFrom_append, ih (n / 10) (by omega), valueFrom_singleton,
        digitValue_digit (Nat.mod_lt n (by decide))]
      omega

theorem all_isDigit_padLeft (width n : Nat) : (padLeft width (ofNat n)).all isDigit = true := by
  rw [List.all_eq_true]
  intro b mem
  rcases List.mem_append.mp mem with zeros | numeral
  · rw [List.eq_of_mem_replicate zeros]
    rfl
  · exact isDigit_ofNat n b numeral

theorem padLeft_ofNat_ne_nil (width n : Nat) : padLeft width (ofNat n) ≠ [] :=
  List.append_ne_nil_of_right_ne_nil _ (ofNat_ne_nil n)

/-- **A numeral reads back as its number**, with or without zeros in front. -/
theorem toNat?_padLeft_ofNat (width n : Nat) : toNat? (padLeft width (ofNat n)) = some n := by
  have nonempty : (padLeft width (ofNat n)).isEmpty = false :=
    List.isEmpty_eq_false_iff.mpr (padLeft_ofNat_ne_nil width n)
  rw [toNat?, nonempty, all_isDigit_padLeft]
  simp only [Bool.not_false, Bool.and_self, if_true]
  rw [padLeft, valueFrom_repeated, valueFrom_ofNat]

theorem splitSign_of_isDigit {b : UInt8} (h : isDigit b = true) (rest : Text) :
    splitSign (b :: rest) = (false, b :: rest) := by
  unfold splitSign
  split
  · next same =>
    cases same
    exact absurd h (by decide)
  · next same =>
    cases same
    exact absurd h (by decide)
  · rfl

theorem toInt?_padLeft_ofNat (width n : Nat) :
    toInt? (padLeft width (ofNat n)) = some (n : Int) := by
  have read := toNat?_padLeft_ofNat width n
  have digits := all_isDigit_padLeft width n
  cases shape : padLeft width (ofNat n) with
  | nil => exact absurd shape (padLeft_ofNat_ne_nil width n)
  | cons b rest =>
    rw [shape] at read digits
    rw [List.all_cons, Bool.and_eq_true] at digits
    rw [toInt?, splitSign_of_isDigit digits.1]
    simp only [read]
    rfl

/-! ## Short numerals -/

theorem padLeft_two {n : Nat} (h : n < 100) :
    padLeft 2 (ofNat n) = [digit (n / 10), digit (n % 10)] := by
  by_cases small : n < 10
  · rw [ofNat_of_lt small]
    interval_cases n <;> rfl
  · rw [ofNat_eq (by omega), ofNat_of_lt (by omega)]
    rfl

theorem padLeft_two_of_le {n : Nat} (low : 10 ≤ n) (high : n < 100) :
    padLeft 2 (ofNat n) = ofNat n := by
  rw [ofNat_eq low, ofNat_of_lt (by omega)]
  rfl

theorem ofNat_four {n : Nat} (low : 1000 ≤ n) (high : n < 10000) :
    ofNat n = [digit (n / 1000), digit (n / 100 % 10), digit (n / 10 % 10), digit (n % 10)] := by
  rw [ofNat_eq (by omega), ofNat_eq (by omega), ofNat_eq (by omega), ofNat_of_lt (by omega)]
  have hundreds : n / 10 / 10 = n / 100 := by omega
  have thousands : n / 10 / 10 / 10 = n / 1000 := by omega
  rw [thousands, hundreds]
  rfl

theorem padLeft_four {n : Nat} (low : 1000 ≤ n) (high : n < 10000) :
    padLeft 4 (ofNat n) = ofNat n := by
  rw [ofNat_four low high]
  rfl

theorem ofInt_natCast (n : Nat) : ofInt (n : Int) = ofNat n := rfl

end DatePattern.Decimal
