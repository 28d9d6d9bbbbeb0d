import DatePattern.Proofs.Number.Decimal
import Mathlib.Data.Nat.Digits.Lemmas

/-!
# Signed numerals

Which texts are read as whole numbers, and which of them are also how the number is written:

- `placeValue`: the number of a run of digits by their places, which is the number that the reader
  builds from the left (`valueFrom_eq_placeValue`);
- `toInt?_eq_some_iff`: an integer is read from a run of digits behind an optional sign;
- `canonical_iff`: of the texts that are read as a number, the one that is written for it is zero,
  or starts with a digit other than zero behind at most a minus sign.
-/

namespace DatePattern.Decimal

/-- The number of digits by their places, the last one counting once. -/
def placeValue (digits : Text) : Nat := Nat.ofDigits 10 (digits.reverse.map digitValue)

/-- A run of ASCII digits, with at least one of them. -/
def IsRun (text : Text) : Prop := text ≠ [] ∧ ∀ b ∈ text, isDigit b = true

/-- A run of digits behind an optional sign, and its integer. -/
inductive Signed : Text → Int → Prop
  | bare {digits : Text} (run : IsRun digits) : Signed digits (placeValue digits)
  | plus {digits : Text} (run : IsRun digits) : Signed (0x2B :: digits) (placeValue digits)
  | minus {digits : Text} (run : IsRun digits) :
    Signed (0x2D :: digits) (-(placeValue digits : Int))

/-- Zero, or digits that do not start with zero behind an optional minus sign; and its integer. -/
inductive Canonical : Text → Int → Prop
  | zero : Canonical [0x30] 0
  | positive {first : UInt8} {rest : Text} (run : IsRun (first :: rest)) (lead : first ≠ 0x30) :
    Canonical (first :: rest) (placeValue (first :: rest))
  | negative {first : UInt8} {rest : Text} (run : IsRun (first :: rest)) (lead : first ≠ 0x30) :
    Canonical (0x2D :: first :: rest) (-(placeValue (first :: rest) : Int))

/-! ## Places -/

theorem placeValue_concat (digits : Text) (b : UInt8) :
    placeValue (digits ++ [b]) = placeValue digits * 10 + digitValue b := by
  rw [placeValue, List.reverse_concat, List.map_cons, Nat.ofDigits_cons, placeValue]
  ring

/-- Zeros at the end shift the places. -/
theorem placeValue_append_zeros (digits : Text) (zeros : Nat) :
    placeValue (digits ++ Text.repeated zeros 0x30)
      = placeValue digits * 10 ^ zeros := by
  induction zeros with
  | zero => rw [Text.repeated, List.replicate_zero, List.append_nil, pow_zero, mul_one]
  | succ zeros ih =>
    have last : Text.repeated (zeros + 1) 0x30 = Text.repeated zeros 0x30 ++ [0x30] :=
      List.replicate_succ'
    rw [last, ← List.append_assoc, placeValue_concat, ih, pow_succ, ← mul_assoc]
    rfl

theorem valueFrom_eq_placeValue (digits : Text) : valueFrom 0 digits = placeValue digits := by
  induction digits using List.reverseRecOn with
  | nil => rfl
  | append_singleton digits b ih =>
    rw [valueFrom_append, valueFrom_singleton, placeValue_concat, ih]

theorem toNat?_eq_some_iff (text : Text) (n : Nat) :
    toNat? text = some n ↔ IsRun text ∧ n = placeValue text := by
  rw [toNat?, valueFrom_eq_placeValue, IsRun]
  by_cases run : (!text.isEmpty && text.all isDigit) = true
  · have parts : text ≠ [] ∧ ∀ b ∈ text, isDigit b = true := by simpa using run
    rw [if_pos run, Option.some_inj, eq_comm, and_iff_right parts]
  · have parts : ¬(text ≠ [] ∧ ∀ b ∈ text, isDigit b = true) := by simpa using run
    rw [if_neg run]
    simp [parts]

/-! ## Signs -/

theorem splitSign_cases (text : Text) :
    (∃ digits, text = 0x2B :: digits ∧ splitSign text = (false, digits)) ∨
    (∃ digits, text = 0x2D :: digits ∧ splitSign text = (true, digits)) ∨
    splitSign text = (false, text) := by
  unfold splitSign
  split
  · next digits => exact .inl ⟨digits, rfl, rfl⟩
  · next digits => exact .inr (.inl ⟨digits, rfl, rfl⟩)
  · exact .inr (.inr rfl)

theorem splitSign_of_isRun {text : Text} (run : IsRun text) : splitSign text = (false, text) := by
  obtain ⟨some, digits⟩ := run
  obtain ⟨b, rest, rfl⟩ := List.exists_cons_of_ne_nil some
  exact splitSign_of_isDigit (digits b List.mem_cons_self) rest

theorem toInt?_of_splitSign {text digits : Text} {negative : Bool}
    (split : splitSign text = (negative, digits)) (n : Int) :
    toInt? text = some n ↔
      IsRun digits ∧ n = if negative then -(placeValue digits : Int) else placeValue digits := by
  have read := toNat?_eq_some_iff digits
  rw [toInt?, split]
  cases found : toNat? digits with
  | none =>
    have none : ¬IsRun digits := fun run => by simpa [found] using (read _).mpr ⟨run, rfl⟩
    simp [none, found]
  | some value =>
    obtain ⟨run, rfl⟩ := (read value).mp found
    simp [run, found, eq_comm]

/-- An integer is read from an optional sign and a run of digits, and from nothing else. -/
theorem toInt?_eq_some_iff (text : Text) (n : Int) : toInt? text = some n ↔ Signed text n := by
  constructor
  · intro h
    rcases splitSign_cases text with ⟨digits, rfl, split⟩ | ⟨digits, rfl, split⟩ | split
    all_goals obtain ⟨run, rfl⟩ := (toInt?_of_splitSign split n).mp h
    · exact .plus run
    · exact .minus run
    · exact .bare run
  · rintro (run | run | run)
    · exact (toInt?_of_splitSign (splitSign_of_isRun run) _).mpr ⟨run, rfl⟩
    · exact (toInt?_of_splitSign rfl _).mpr ⟨run, rfl⟩
    · exact (toInt?_of_splitSign rfl _).mpr ⟨run, rfl⟩

/-! ## Canonical numerals -/

theorem isDigit_iff (b : UInt8) : isDigit b = true ↔ 48 ≤ b.toNat ∧ b.toNat ≤ 57 := by
  rw [isDigit, Bool.and_eq_true, decide_eq_true_iff, decide_eq_true_iff, UInt8.le_iff_toNat_le,
    UInt8.le_iff_toNat_le]
  rfl

theorem digit_digitValue {b : UInt8} (h : isDigit b = true) : digit (digitValue b) = b := by
  rw [digit, digitValue, Nat.add_sub_cancel' ((isDigit_iff b).mp h).1, UInt8.ofNat_toNat]

theorem digitValue_lt {b : UInt8} (h : isDigit b = true) : digitValue b < 10 := by
  obtain ⟨-, high⟩ := (isDigit_iff b).mp h
  rw [digitValue]
  omega

/-- Digits that do not start with zero are how their number is written. -/
theorem ofNat_placeValue {first : UInt8} {rest : Text} (run : IsRun (first :: rest))
    (lead : first ≠ 0x30) : ofNat (placeValue (first :: rest)) = first :: rest := by
  induction rest using List.reverseRecOn with
  | nil =>
    have digit := run.2 first List.mem_cons_self
    have value : placeValue [first] = digitValue first := by simp [placeValue]
    rw [value, ofNat_of_lt (digitValue_lt digit), digit_digitValue digit]
  | append_singleton rest b ih =>
    rw [← List.cons_append] at run ⊢
    have digit := run.2 b (List.mem_append_right _ List.mem_cons_self)
    have front : IsRun (first :: rest) :=
      ⟨List.cons_ne_nil _ _, fun c mem => run.2 c (List.mem_append_left _ mem)⟩
    have written := ih front
    -- the digits in front are not zero, as zero would be written with a zero in front
    have positive : placeValue (first :: rest) ≠ 0 := by
      intro zero
      rw [zero] at written
      exact lead (List.cons.inj written).1.symm
    have small := digitValue_lt digit
    rw [placeValue_concat, ofNat_eq (by omega)]
    have quotient : (placeValue (first :: rest) * 10 + digitValue b) / 10 =
        placeValue (first :: rest) := by omega
    have remainder : (placeValue (first :: rest) * 10 + digitValue b) % 10 = digitValue b := by
      omega
    rw [quotient, remainder, written, digit_digitValue digit]

/-- A number other than zero is written without a zero in front. -/
theorem exists_ofNat {n : Nat} (positive : n ≠ 0) :
    ∃ first rest, ofNat n = first :: rest ∧ first ≠ 0x30 := by
  induction n using Nat.strongRecOn with
  | ind n ih =>
    by_cases small : n < 10
    · refine ⟨digit n, [], ofNat_of_lt small, fun zero => positive ?_⟩
      rw [← digitValue_digit small, zero]
      rfl
    · obtain ⟨first, rest, written, lead⟩ := ih (n / 10) (by omega) (by omega)
      refine ⟨first, rest ++ [digit (n % 10)], ?_, lead⟩
      rw [ofNat_eq (by omega), written, List.cons_append]

theorem isRun_ofNat (n : Nat) : IsRun (ofNat n) := ⟨ofNat_ne_nil n, isDigit_ofNat n⟩

theorem placeValue_ofNat (n : Nat) : placeValue (ofNat n) = n := by
  rw [← valueFrom_eq_placeValue, valueFrom_ofNat]

/-- Every integer is written canonically. -/
theorem canonical_ofInt (n : Int) : Canonical (ofInt n) n := by
  have written : ∀ {m : Nat}, m ≠ 0 → ∃ first rest, ofNat m = first :: rest ∧
      IsRun (first :: rest) ∧ first ≠ 0x30 ∧ placeValue (first :: rest) = m := by
    intro m positive
    obtain ⟨first, rest, shape, lead⟩ := exists_ofNat positive
    exact ⟨first, rest, shape, shape ▸ isRun_ofNat m, lead, shape ▸ placeValue_ofNat m⟩
  cases n with
  | ofNat m =>
    by_cases zero : m = 0
    · rw [zero]
      exact .zero
    · obtain ⟨first, rest, shape, run, lead, value⟩ := written zero
      have canonical := Canonical.positive run lead
      rw [value, ← shape] at canonical
      exact canonical
  | negSucc m =>
    obtain ⟨first, rest, shape, run, lead, value⟩ := written (Nat.succ_ne_zero m)
    have canonical := Canonical.negative run lead
    rw [value, ← shape] at canonical
    exact canonical

/-- **Canonical numerals** are the texts that are written for the number they are read as. -/
theorem canonical_iff (text : Text) (n : Int) :
    Canonical text n ↔ Signed text n ∧ ofInt n = text := by
  constructor
  · rintro (_ | @⟨first, rest, run, lead⟩ | @⟨first, rest, run, lead⟩)
    · have zero := Signed.bare (isRun_ofNat 0)
      rw [placeValue_ofNat] at zero
      exact ⟨zero, rfl⟩
    · exact ⟨.bare run, ofNat_placeValue run lead⟩
    · refine ⟨.minus run, ?_⟩
      have written := ofNat_placeValue run lead
      -- the number is not zero, so its negation has a sign
      cases value : placeValue (first :: rest) with
      | zero =>
        rw [value] at written
        exact absurd (List.cons.inj written).1.symm lead
      | succ m =>
        rw [value] at written
        exact congrArg (0x2D :: ·) written
  · rintro ⟨-, rfl⟩
    exact canonical_ofInt n

theorem toInt?_ofInt (n : Int) : toInt? (ofInt n) = some n :=
  (toInt?_eq_some_iff _ n).mpr ((canonical_iff _ n).mp (canonical_ofInt n)).1

theorem ofInt_injective : Function.Injective ofInt := by
  intro n m same
  have read := toInt?_ofInt n
  rw [same, toInt?_ofInt] at read
  exact (Option.some.inj read).symm

end DatePattern.Decimal
