import DatePattern.Proofs.Number.Signed
import DatePattern.Proofs.Number.Width
import DatePattern.Proofs.Text.Split
import DatePattern.Verify.Matches
import Mathlib.Data.List.TakeWhile

/-!
# Matching is numeric equality

A result matches its reference when the two are the same text, or when the reference is a whole
number in its canonical form and the result is a number with a point that has the same value. The
grammar of number texts and their values are given here without the reader:

- `NumberText`: digits with an optional sign and at most one point, and an optional exponent of 32
  bits; the point may stand anywhere, also before the sign;
- `parse?_eq_some_iff`: these are the texts that are read, with the digits and the exponent that
  are read from them;
- `Numeral.equals_iff`, `Numeral.equals_truncate_iff`: two numerals are compared by their exact
  rational values, and a numeral is its own whole part when its value is an integer;
- `Numeral.text_reads_back`: what a numeral is written as reads back with its value;
- `Numeral.text_eq_iff`: of the texts without a point, those that are written for what is read from
  them are the canonical whole numbers.
-/

namespace DatePattern

namespace Verify

open Decimal (Signed Canonical)

/-! ## Number texts -/

/-- The bytes that start an exponent, `e` and `E`. -/
def IsMark (b : UInt8) : Prop := b = 0x65 ∨ b = 0x45

instance : DecidablePred IsMark := fun b => inferInstanceAs (Decidable (b = 0x65 ∨ b = 0x45))

/-- An integer of 32 bits. -/
def IsWord (n : Int) : Prop := -2147483648 ≤ n ∧ n ≤ 2147483647

/-- The end of a number text: nothing, or a mark and the exponent. -/
inductive ExponentPart : Text → Int → Prop
  | absent : ExponentPart [] 0
  | marked {mark : UInt8} {text : Text} {exponent : Int} (mark_ok : IsMark mark)
      (signed : Signed text exponent) (word : IsWord exponent) :
      ExponentPart (mark :: text) exponent

/-- The front of a number text: the integer that it is without its point, and the number of bytes
behind the point. -/
inductive Mantissa : Text → Int → Nat → Prop
  | whole {text : Text} {n : Int} (pointless : 0x2E ∉ text) (signed : Signed text n) :
      Mantissa text n 0
  | pointed {before behind : Text} {n : Int} (pointless : 0x2E ∉ before ∧ 0x2E ∉ behind)
      (signed : Signed (before ++ behind) n) : Mantissa (before ++ 0x2E :: behind) n behind.length

/-- A number text: its exponent starts at the first mark, and together with the places behind the
point it has 32 bits. -/
inductive NumberText : Text → Numeral → Prop
  | intro {front part : Text} {n exponent : Int} {places : Nat} (unmarked : ∀ b ∈ front, ¬IsMark b)
      (mantissa : Mantissa front n places) (exponent_part : ExponentPart part exponent)
      (word : IsWord (exponent - places)) : NumberText (front ++ part) ⟨n, exponent - places⟩

/-- The exact value of a numeral. -/
def Numeral.value (numeral : Numeral) : ℚ := numeral.digits * 10 ^ numeral.exponent

theorem fitsWord_iff (n : Int) : fitsWord n = true ↔ IsWord n := by
  simp [fitsWord, IsWord]

theorem ExponentPart.isWord {part : Text} {exponent : Int} (h : ExponentPart part exponent) :
    IsWord exponent := by
  cases h with
  | absent => exact ⟨by decide, by decide⟩
  | marked _ _ word => exact word

theorem ne_of_isDigit {b : UInt8} (h : Decimal.isDigit b = true) :
    b ≠ 0x2B ∧ b ≠ 0x2D ∧ ¬IsMark b := by
  obtain ⟨low, high⟩ := (Decimal.isDigit_iff b).mp h
  refine ⟨?_, ?_, ?_⟩
  · rintro rfl
    exact absurd low (by decide)
  · rintro rfl
    exact absurd low (by decide)
  · rintro (rfl | rfl)
    · exact absurd high (by decide)
    · exact absurd high (by decide)

/-- The front of a number text has digits, a sign and a point, and so no mark. -/
theorem Mantissa.unmarked {front : Text} {n : Int} {places : Nat}
    (mantissa : Mantissa front n places) : ∀ b ∈ front, ¬IsMark b := by
  have signed : ∀ {text : Text} {n : Int}, Signed text n → ∀ b ∈ text, ¬IsMark b := by
    rintro _ _ (run | run | run)
    · exact fun b mem => (ne_of_isDigit (run.2 b mem)).2.2
    · exact List.forall_mem_cons.mpr ⟨by decide, fun b mem => (ne_of_isDigit (run.2 b mem)).2.2⟩
    · exact List.forall_mem_cons.mpr ⟨by decide, fun b mem => (ne_of_isDigit (run.2 b mem)).2.2⟩
  rcases mantissa with ⟨-, whole⟩ | ⟨-, parts⟩
  · exact signed whole
  · have free := signed parts
    intro b mem
    rcases List.mem_append.mp mem with before | point | ⟨_, behind⟩
    · exact free b (List.mem_append_left _ before)
    · decide
    · exact free b (List.mem_append_right _ behind)

/-! ## Reading number texts -/

/-- A text has no mark, or a first one. -/
theorem mark_cases (text : Text) :
    (∀ b ∈ text, ¬IsMark b) ∨
    ∃ front mark rest, text = front ++ mark :: rest ∧ (∀ b ∈ front, ¬IsMark b) ∧ IsMark mark := by
  induction text with
  | nil => exact .inl (List.forall_mem_nil _)
  | cons b text ih =>
    by_cases first : IsMark b
    · exact .inr ⟨[], b, text, rfl, List.forall_mem_nil _, first⟩
    · rcases ih with none | ⟨front, mark, rest, rfl, free, isMark⟩
      · exact .inl (List.forall_mem_cons.mpr ⟨first, none⟩)
      · exact .inr ⟨b :: front, mark, rest, rfl, List.forall_mem_cons.mpr ⟨first, free⟩, isMark⟩

section SplitExponent

variable {front : Text} (free : ∀ b ∈ front, ¬IsMark b)
include free

theorem passes_of_unmarked : ∀ b ∈ front, (!(decide (b = 0x65) || decide (b = 0x45))) = true := by
  intro b mem
  have unmarked := free b mem
  rw [IsMark, not_or] at unmarked
  simp [unmarked.1, unmarked.2]

theorem splitExponent_of_unmarked : splitExponent front = some (front, 0) := by
  have none := List.dropWhile_eq_nil_iff.mpr (passes_of_unmarked free)
  simp only [splitExponent]
  rw [none]

theorem splitExponent_of_mark {mark : UInt8} (isMark : IsMark mark) (rest : Text) :
    splitExponent (front ++ mark :: rest) =
      (Decimal.toInt? rest).bind fun n => if fitsWord n then some (front, n) else none := by
  have stops : (!(decide (mark = 0x65) || decide (mark = 0x45))) = false := by
    rcases isMark with rfl | rfl <;> rfl
  have passes := passes_of_unmarked free
  simp only [splitExponent, List.dropWhile_append_of_pos passes,
    List.takeWhile_append_of_pos passes, List.dropWhile_cons_of_neg, List.takeWhile_cons_of_neg,
    stops, Bool.false_eq_true, not_false_eq_true, List.append_nil]
  cases Decimal.toInt? rest <;> rfl

end SplitExponent

/-- The exponent is split off at the first mark. -/
theorem splitExponent_eq_some_iff (text front : Text) (exponent : Int) :
    splitExponent text = some (front, exponent) ↔
      ∃ part, text = front ++ part ∧ (∀ b ∈ front, ¬IsMark b) ∧ ExponentPart part exponent := by
  constructor
  · intro h
    rcases mark_cases text with none | ⟨before, mark, rest, rfl, free, isMark⟩
    · rw [splitExponent_of_unmarked none] at h
      cases h
      exact ⟨[], (List.append_nil text).symm, none, .absent⟩
    · rw [splitExponent_of_mark free isMark] at h
      obtain ⟨n, read, fits⟩ := Option.bind_eq_some_iff.mp h
      split_ifs at fits with word
      cases fits
      exact ⟨mark :: rest, rfl, free,
        .marked isMark ((Decimal.toInt?_eq_some_iff _ _).mp read) ((fitsWord_iff _).mp word)⟩
  · rintro ⟨part, rfl, free, absent | ⟨isMark, signed, word⟩⟩
    · rw [List.append_nil, splitExponent_of_unmarked free]
    · rw [splitExponent_of_mark free isMark, (Decimal.toInt?_eq_some_iff _ _).mpr signed,
        Option.bind_some, if_pos ((fitsWord_iff _).mpr word)]

section Front

variable {text front : Text} {exponent : Int} (split : splitExponent text = some (front, exponent))
include split

theorem parse?_of_whole (pointless : 0x2E ∉ front) :
    Numeral.parse? text = (Decimal.toInt? front).map fun n => ⟨n, exponent⟩ := by
  simp only [Numeral.parse?, split, bind, Option.bind, Text.splitAtByte_of_not_mem pointless]
  cases Decimal.toInt? front <;> rfl

theorem parse?_of_pointed {before behind : Text} (shape : front = before ++ 0x2E :: behind)
    (pointless : 0x2E ∉ before ∧ 0x2E ∉ behind) :
    Numeral.parse? text = (Decimal.toInt? (before ++ behind)).bind fun n =>
      if fitsWord (exponent - behind.length) then some ⟨n, exponent - behind.length⟩ else none := by
  simp only [Numeral.parse?, split, bind, Option.bind, shape,
    Text.splitAtByte_append_cons pointless.1, Text.splitAtByte_of_not_mem pointless.2]
  cases Decimal.toInt? (before ++ behind) <;> rfl

theorem parse?_of_points {before between behind : Text}
    (shape : front = before ++ 0x2E :: (between ++ 0x2E :: behind))
    (pointless : 0x2E ∉ before ∧ 0x2E ∉ between) : Numeral.parse? text = none := by
  obtain ⟨segment, segments, more⟩ :=
    List.exists_cons_of_ne_nil (Text.splitAtByte_ne_nil 0x2E behind)
  simp only [Numeral.parse?, split, bind, Option.bind, shape,
    Text.splitAtByte_append_cons pointless.1, Text.splitAtByte_append_cons pointless.2, more]

end Front

/-- **Number texts** are the texts that are read, each as the numeral it is. -/
theorem parse?_eq_some_iff (text : Text) (numeral : Numeral) :
    Numeral.parse? text = some numeral ↔ NumberText text numeral := by
  constructor
  · intro h
    cases split : splitExponent text with
    | none => simp [Numeral.parse?, split] at h
    | some pair =>
      obtain ⟨front, exponent⟩ := pair
      obtain ⟨part, rfl, free, read⟩ := (splitExponent_eq_some_iff _ _ _).mp split
      by_cases point : 0x2E ∈ front
      · obtain ⟨before, rest, shape, first⟩ := List.eq_append_cons_of_mem point
        by_cases second : 0x2E ∈ rest
        · obtain ⟨between, behind, rfl, next⟩ := List.eq_append_cons_of_mem second
          rw [parse?_of_points split shape ⟨first, next⟩] at h
          cases h
        · rw [parse?_of_pointed split shape ⟨first, second⟩] at h
          obtain ⟨n, digits, fits⟩ := Option.bind_eq_some_iff.mp h
          split_ifs at fits with word
          cases fits
          have mantissa := Mantissa.pointed ⟨first, second⟩
            ((Decimal.toInt?_eq_some_iff _ _).mp digits)
          exact .intro free (shape ▸ mantissa) read ((fitsWord_iff _).mp word)
      · rw [parse?_of_whole split point] at h
        obtain ⟨n, digits, rfl⟩ := Option.map_eq_some_iff.mp h
        have mantissa := Mantissa.whole point ((Decimal.toInt?_eq_some_iff _ _).mp digits)
        have whole := NumberText.intro free mantissa read
          (by simpa using read.isWord)
        simpa using whole
  · rintro ⟨free, mantissa, read, word⟩
    have split := (splitExponent_eq_some_iff _ _ _).mpr ⟨_, rfl, free, read⟩
    rcases mantissa with ⟨pointless, signed⟩ | ⟨pointless, signed⟩
    · rw [parse?_of_whole split pointless, (Decimal.toInt?_eq_some_iff _ _).mpr signed]
      simp
    · rw [parse?_of_pointed split rfl pointless, (Decimal.toInt?_eq_some_iff _ _).mpr signed,
        Option.bind_some, if_pos ((fitsWord_iff _).mpr word)]

/-! ## Values -/

namespace Numeral

theorem exponent_rescale (numeral : Numeral) (exponent : Int) :
    (numeral.rescale exponent).exponent = exponent := by
  unfold rescale
  split_ifs <;> rfl

theorem value_integer (n : Int) : (⟨n, 0⟩ : Numeral).value = n := by
  rw [value, zpow_zero, mul_one]

/-- A smaller exponent has a place for every digit. -/
theorem value_rescale {numeral : Numeral} {exponent : Int} (le : exponent ≤ numeral.exponent) :
    (numeral.rescale exponent).value = numeral.value := by
  obtain ⟨digits, high⟩ := numeral
  obtain ⟨k, rfl⟩ : ∃ k : Nat, high = k + exponent :=
    ⟨(high - exponent).toNat, by dsimp only at le; omega⟩
  have steps : ((k : Int) + exponent - exponent).toNat = k := by omega
  rw [rescale, if_neg (by dsimp only; omega), value, value]
  dsimp only
  rw [steps, zpow_add₀ (by norm_num : (10 : ℚ) ≠ 0), zpow_natCast, ← mul_assoc]
  congr 1
  show ((digits * 10 ^ k : Int) : ℚ) = _
  push_cast
  rfl

theorem value_eq_iff {a b : Numeral} (same : a.exponent = b.exponent) :
    a.value = b.value ↔ a.digits = b.digits := by
  have power : (10 : ℚ) ^ b.exponent ≠ 0 := by positivity
  rw [value, value, same, mul_left_inj' power, Int.cast_inj]

/-- **Numerals are compared by their exact values.** -/
theorem equals_iff (a b : Numeral) : a.equals b = true ↔ a.value = b.value := by
  have same : (a.rescale (min a.exponent b.exponent)).exponent
      = (b.rescale (min a.exponent b.exponent)).exponent := by
    rw [exponent_rescale, exponent_rescale]
  rw [equals, beq_iff_eq, ← value_eq_iff same, value_rescale (min_le_left _ _),
    value_rescale (min_le_right _ _)]

/-- At exponent 0 a numeral is an integer. -/
theorem value_rescale_zero (numeral : Numeral) :
    (numeral.rescale 0).value = (numeral.rescale 0).digits := by
  rw [value, exponent_rescale, zpow_zero, mul_one]

/-- A numeral is equal to its whole part when its value is an integer. -/
theorem equals_truncate_iff (numeral : Numeral) :
    numeral.equals numeral.truncate = true ↔ ∃ n : Int, numeral.value = n := by
  rw [equals_iff, truncate]
  split_ifs with negative
  · constructor
    · exact fun same => ⟨_, same.trans numeral.value_rescale_zero⟩
    · rintro ⟨n, integer⟩
      obtain ⟨digits, exponent⟩ := numeral
      obtain ⟨k, rfl⟩ : ∃ k : Nat, exponent = -k :=
        ⟨exponent.natAbs, by dsimp only at negative; omega⟩
      have power : (10 : ℚ) ^ k ≠ 0 := by positivity
      -- nothing is cut off, since the power of ten divides the digits
      have multiple : digits = n * 10 ^ k := by
        rw [value, zpow_neg, zpow_natCast, ← div_eq_mul_inv, div_eq_iff power] at integer
        exact_mod_cast integer
      have steps : (0 - -(k : Int)).toNat = k := by omega
      have quotient : digits.tdiv (Int.pow 10 k) = n := by
        rw [multiple]
        exact Int.mul_tdiv_cancel n (pow_ne_zero k (by decide))
      rw [integer, rescale, if_pos negative]
      dsimp only
      rw [steps, quotient, value_integer]
  · refine iff_of_true rfl ⟨(numeral.rescale 0).digits, ?_⟩
    rw [← value_rescale_zero, value_rescale (not_lt.mp negative)]

end Numeral

/-! ## References that are no canonical numbers -/

/-- Something behind a zero at the front, or behind a sign and a zero. -/
def IsPadded (text : Text) : Prop :=
  ∃ sign rest, (sign = [] ∨ sign = [0x2D] ∨ sign = [0x2B]) ∧ rest ≠ [] ∧
    text = sign ++ 0x30 :: rest

theorem not_isPadded_of_canonical {text : Text} {n : Int} (h : Canonical text n) :
    ¬IsPadded text := by
  rintro ⟨sign, rest, signs, some, shape⟩
  cases h with
  | zero =>
    have length := congrArg List.length shape
    have positive := List.length_pos_iff.mpr some
    simp only [List.length_append, List.length_cons, List.length_nil] at length
    omega
  | positive run lead =>
    -- the first digit would be the zero or the sign
    have digit := run.2 _ List.mem_cons_self
    rcases signs with rfl | rfl | rfl
    · exact lead (List.cons.inj shape).1
    · exact (ne_of_isDigit digit).2.1 (List.cons.inj shape).1
    · exact (ne_of_isDigit digit).1 (List.cons.inj shape).1
  | negative run lead =>
    rcases signs with rfl | rfl | rfl
    · exact absurd (List.cons.inj shape).1 (by decide)
    · exact lead (List.cons.inj (List.cons.inj shape).2).1
    · exact absurd (List.cons.inj shape).1 (by decide)

theorem head?_of_canonical {text : Text} {n : Int} (h : Canonical text n) :
    text.head? ≠ some 0x2B := by
  rw [Ne, List.head?_eq_some_iff]
  rintro ⟨rest, shape⟩
  cases h with
  | zero => exact absurd (List.cons.inj shape).1 (by decide)
  | positive run => exact (ne_of_isDigit (run.2 _ List.mem_cons_self)).1 (List.cons.inj shape).1
  | negative => exact absurd (List.cons.inj shape).1 (by decide)

/-- A canonical whole number has only digits behind its sign. -/
theorem isDigit_of_canonical {text : Text} {n : Int} (h : Canonical text n) :
    ∀ b ∈ text, b = 0x2D ∨ Decimal.isDigit b = true := by
  cases h with
  | zero => exact List.forall_mem_singleton.mpr (.inr rfl)
  | positive run => exact fun b mem => .inr (run.2 b mem)
  | negative run =>
    exact List.forall_mem_cons.mpr ⟨.inl rfl, fun b mem => .inr (run.2 b mem)⟩

theorem not_isMark_of_canonical {text : Text} {n : Int} (h : Canonical text n) :
    ∀ b ∈ text, ¬IsMark b := by
  intro b mem
  rcases isDigit_of_canonical h b mem with rfl | digit
  · decide
  · exact (ne_of_isDigit digit).2.2

theorem not_mem_point_of_canonical {text : Text} {n : Int} (h : Canonical text n) :
    0x2E ∉ text := by
  intro mem
  rcases isDigit_of_canonical h _ mem with minus | digit
  · exact absurd minus (by decide)
  · exact absurd digit (by decide)

/-! ## Writing numerals -/

/-- What is trimmed off the end of a text are zeros. -/
theorem trimRightWhile_zeros (text : Text) :
    ∃ zeros, text = Text.trimRightWhile (· = 0x30) text ++ Text.repeated zeros 0x30 := by
  have split := congrArg List.reverse
    (List.takeWhile_append_dropWhile (p := fun b : UInt8 => decide (b = 0x30)) (l := text.reverse))
  rw [List.reverse_append, List.reverse_reverse] at split
  refine ⟨(text.reverse.takeWhile fun b => decide (b = 0x30)).length, split.symm.trans ?_⟩
  congr 1
  refine List.eq_replicate_iff.mpr ⟨List.length_reverse, fun b mem => ?_⟩
  have zero := List.mem_takeWhile_imp (List.mem_reverse.mp mem)
  exact of_decide_eq_true zero

namespace Numeral

theorem isDigit_padded (numeral : Numeral) : ∀ b ∈ numeral.padded, Decimal.isDigit b = true :=
  List.all_eq_true.mp (Decimal.all_isDigit_padLeft _ _)

theorem placeValue_padded (numeral : Numeral) :
    Decimal.placeValue numeral.padded = numeral.digits.natAbs := by
  rw [← Decimal.valueFrom_eq_placeValue, padded, Decimal.padLeft, Decimal.valueFrom_repeated,
    Decimal.valueFrom_ofNat]

theorem lt_length_padded (numeral : Numeral) :
    (-numeral.exponent).toNat < numeral.padded.length := by
  rw [padded, Decimal.length_padLeft_eq_max]
  omega

/-- The padded digits are those before the point, those of the fraction and zeros. -/
theorem padded_eq (numeral : Numeral) :
    ∃ (whole : Text) (zeros : Nat), whole ≠ [] ∧
      numeral.padded.take (numeral.padded.length - (-numeral.exponent).toNat) = whole ∧
      numeral.padded = whole ++ numeral.fraction ++ Text.repeated zeros 0x30 ∧
      (-numeral.exponent).toNat = numeral.fraction.length + zeros := by
  have long := numeral.lt_length_padded
  obtain ⟨zeros, behind⟩ := trimRightWhile_zeros
    (numeral.padded.drop (numeral.padded.length - (-numeral.exponent).toNat))
  have places := congrArg List.length behind
  rw [List.length_drop, List.length_append, Text.repeated, List.length_replicate] at places
  refine ⟨_, zeros, ?_, rfl, ?_, ?_⟩
  · rw [Ne, List.take_eq_nil_iff, not_or]
    exact ⟨by omega, List.ne_nil_of_length_pos (by omega)⟩
  · rw [fraction, List.append_assoc, ← behind, List.take_append_drop]
  · rw [fraction]
    omega

/-- Digits behind the sign of a number. -/
theorem signed_of_isRun {digits : Text} (run : Decimal.IsRun digits) (negative : Prop)
    [Decidable negative] :
    Signed ((if negative then "-" else [] : Text) ++ digits)
      (if negative then -(Decimal.placeValue digits : Int) else Decimal.placeValue digits) := by
  split_ifs
  · exact .minus run
  · exact .bare run

/-- A sign, digits before a point and digits behind it make the front of a number text. The point
is left out where nothing is behind it. -/
theorem mantissa_of_isRun {whole behind : Text} (run : Decimal.IsRun (whole ++ behind))
    (negative : Prop) [Decidable negative] :
    Mantissa ((if negative then "-" else [] : Text) ++ whole
        ++ (if behind.isEmpty then [] else "." ++ behind : Text))
      (if negative then -(Decimal.placeValue (whole ++ behind) : Int)
        else Decimal.placeValue (whole ++ behind)) behind.length := by
  have signed := signed_of_isRun run negative
  rw [← List.append_assoc] at signed
  have pointless : ∀ text : Text, (∀ b ∈ text, b ∈ whole ++ behind) → 0x2E ∉ text :=
    fun text inside mem => absurd (run.2 _ (inside _ mem)) (by decide)
  have before : 0x2E ∉ (if negative then "-" else [] : Text) ++ whole := by
    rw [List.mem_append, not_or]
    refine ⟨?_, pointless whole fun b mem => List.mem_append_left _ mem⟩
    split_ifs <;> decide
  by_cases none : behind = []
  · subst none
    simp only [List.isEmpty_nil, if_true, List.append_nil] at signed ⊢
    exact .whole before signed
  · simp only [List.isEmpty_iff, none, if_false]
    exact .pointed ⟨before, pointless behind fun b mem => List.mem_append_right _ mem⟩ signed

/-- Zeros at the end of the digits count as a part of the exponent. -/
theorem value_shift (n exponent : Int) (zeros : Nat) :
    (⟨n * 10 ^ zeros, exponent - zeros⟩ : Numeral).value = (⟨n, exponent⟩ : Numeral).value := by
  have power : (10 : ℚ) ^ zeros ≠ 0 := by positivity
  rw [value, value]
  push_cast
  rw [zpow_sub₀ (by norm_num : (10 : ℚ) ≠ 0), zpow_natCast, mul_assoc, mul_div_cancel₀ _ power]

/-- A numeral is written as the front of a number text, with as many places as it needs. -/
theorem mantissa_text (numeral : Numeral) :
    ∃ n places, Mantissa numeral.text n places ∧ places ≤ (-numeral.exponent).toNat ∧
      (⟨n, -places⟩ : Numeral).value = numeral.value := by
  rw [text]
  by_cases positive : 0 ≤ numeral.exponent
  · have canonical := Decimal.canonical_ofInt (numeral.rescale 0).digits
    have signed := ((Decimal.canonical_iff _ _).mp canonical).1
    rw [if_pos positive]
    refine ⟨_, 0, .whole (not_mem_point_of_canonical canonical) signed, Nat.zero_le _, ?_⟩
    rw [Nat.cast_zero, neg_zero, value_integer, ← value_rescale_zero, value_rescale positive]
  · rw [if_neg positive]
    obtain ⟨whole, zeros, some, front, digits, places⟩ := numeral.padded_eq
    have run : Decimal.IsRun (whole ++ numeral.fraction) := by
      refine ⟨List.append_ne_nil_of_left_ne_nil some _, fun b mem => ?_⟩
      exact numeral.isDigit_padded b (digits ▸ List.mem_append_left _ mem)
    rw [front]
    refine ⟨_, _, mantissa_of_isRun run (numeral.digits < 0), by omega, ?_⟩
    -- the zeros that were trimmed off are made up for by the exponent
    have size : (numeral.digits.natAbs : Int)
        = Decimal.placeValue (whole ++ numeral.fraction) * 10 ^ zeros := by
      rw [← numeral.placeValue_padded, digits, Decimal.placeValue_append_zeros]
      push_cast
      rfl
    rw [← value_shift _ _ zeros]
    congr 2
    · split_ifs with negative
      · rw [neg_mul, ← size]
        omega
      · rw [← size]
        omega
    · omega

/-- **What a numeral is written as reads back with its value.** -/
theorem text_reads_back {numeral : Numeral} (word : IsWord numeral.exponent) :
    ∃ read, NumberText numeral.text read ∧ read.value = numeral.value := by
  obtain ⟨n, places, mantissa, few, value⟩ := numeral.mantissa_text
  have fits : IsWord (0 - (places : Int)) := by
    obtain ⟨low, high⟩ := word
    exact ⟨by omega, by omega⟩
  have read := NumberText.intro mantissa.unmarked mantissa .absent fits
  rw [List.append_nil, zero_sub] at read
  exact ⟨_, read, value⟩

theorem text_integer (n : Int) : (⟨n, 0⟩ : Numeral).text = Decimal.ofInt n := by
  show Decimal.ofInt (n * 1) = Decimal.ofInt n
  rw [mul_one]

/-- Of the texts without a point, those that are written for what is read from them are the
canonical whole numbers. -/
theorem text_eq_iff {want : Text} {numeral : Numeral} (pointless : 0x2E ∉ want)
    (read : NumberText want numeral) :
    numeral.text = want ↔ ∃ n, Canonical want n ∧ numeral = ⟨n, 0⟩ := by
  constructor
  · intro written
    -- nothing is written with an exponent, so none was read
    obtain ⟨_, _, front, -⟩ := numeral.mantissa_text
    have unmarked : ∀ b ∈ want, ¬IsMark b := written ▸ front.unmarked
    obtain ⟨-, mantissa, part, -⟩ := read
    cases part with
    | marked mark => exact absurd mark (unmarked _ (List.mem_append_right _ List.mem_cons_self))
    | absent =>
      rw [List.append_nil] at *
      cases mantissa with
      | pointed => exact absurd (List.mem_append_right _ List.mem_cons_self) pointless
      | whole _ signed =>
        refine ⟨_, (Decimal.canonical_iff _ _).mpr ⟨signed, ?_⟩, rfl⟩
        rw [← written]
        exact (text_integer _).symm
  · rintro ⟨n, canonical, rfl⟩
    rw [text_integer]
    exact ((Decimal.canonical_iff _ n).mp canonical).2

theorem numberText_of_canonical {want : Text} {n : Int} (canonical : Canonical want n) :
    NumberText want ⟨n, 0⟩ := by
  have mantissa := Mantissa.whole (not_mem_point_of_canonical canonical)
    ((Decimal.canonical_iff _ n).mp canonical).1
  have read := NumberText.intro mantissa.unmarked mantissa .absent ⟨by decide, by decide⟩
  rw [List.append_nil] at read
  exact read

end Numeral

/-! ## Matching -/

/-- A result that is read as a numeral matches a whole number of the same value; that it is its own
whole part follows. -/
theorem equals_integer_iff (result : Numeral) (n : Int) :
    (result.equals result.truncate && result.equals ⟨n, 0⟩) = true ↔ result.value = n := by
  rw [Bool.and_eq_true, Numeral.equals_truncate_iff, Numeral.equals_iff, Numeral.value_integer]
  exact ⟨And.right, fun same => ⟨⟨n, same⟩, same⟩⟩

/-- Two different texts match when the first is a canonical whole number and the second a number
text with a point that has its value. -/
theorem isMatch_of_ne {want got : Text} (different : want ≠ got) :
    isMatch want got = true ↔
      ∃ n numeral, Canonical want n ∧ 0x2E ∈ got ∧ NumberText got numeral ∧ numeral.value = n := by
  rw [isMatch, if_neg different]
  constructor
  · intro matched
    split_ifs at matched with points
    have point : 0x2E ∈ got ∧ 0x2E ∉ want := by simpa using points
    cases reference : Numeral.parse? want with
    | none => simp [reference] at matched
    | some w =>
      simp only [reference] at matched
      split_ifs at matched with other
      obtain ⟨n, canonical, rfl⟩ := (Numeral.text_eq_iff point.2
        ((parse?_eq_some_iff _ _).mp reference)).mp (not_not.mp other)
      cases result : Numeral.parse? got with
      | none => simp [result] at matched
      | some g =>
        simp only [result] at matched
        exact ⟨n, g, canonical, point.1, (parse?_eq_some_iff _ _).mp result,
          (equals_integer_iff g n).mp matched⟩
  · rintro ⟨n, numeral, canonical, point, result, value⟩
    have pointless := not_mem_point_of_canonical canonical
    have reference := Numeral.numberText_of_canonical canonical
    have written := (Numeral.text_eq_iff pointless reference).mpr ⟨n, canonical, rfl⟩
    rw [if_neg (by simp [point, pointless]), (parse?_eq_some_iff _ _).mpr reference,
      (parse?_eq_some_iff _ _).mpr result]
    simp only [written, ne_eq, not_true_eq_false, if_false]
    exact (equals_integer_iff numeral n).mpr value

/-- **Matching is exact numeric equality, and nothing more.** A result matches a reference when
they are the same text, or when the reference is a canonical whole number and the result is a
number text with a point and exactly that value. A reference that is padded with zeros, or has a
plus sign or an exponent, matches only itself. -/
theorem matches_exactly (want got : Text) :
    (isMatch want got = true ↔ want = got ∨
      ∃ n numeral, Canonical want n ∧ 0x2E ∈ got ∧ NumberText got numeral ∧ numeral.value = n) ∧
    (IsPadded want ∨ want.head? = some 0x2B ∨ (∃ b ∈ want, IsMark b) →
      (isMatch want got = true ↔ want = got)) := by
  have whole : isMatch want got = true ↔ want = got ∨
      ∃ n numeral, Canonical want n ∧ 0x2E ∈ got ∧ NumberText got numeral ∧ numeral.value = n := by
    by_cases same : want = got
    · rw [isMatch, if_pos same]
      exact iff_of_true rfl (.inl same)
    · rw [isMatch_of_ne same, or_iff_right same]
  refine ⟨whole, fun odd => whole.trans (or_iff_left ?_)⟩
  rintro ⟨n, numeral, canonical, -⟩
  rcases odd with padded | plus | ⟨b, mem, mark⟩
  · exact not_isPadded_of_canonical canonical padded
  · exact head?_of_canonical canonical plus
  · exact not_isMark_of_canonical canonical b mem mark

/-- The point may stand before the sign, and the exponent makes up for it; a padded reference does
not match its value. -/
theorem matches_exactly_example :
    isMatch "-5" ".-50e2" = true ∧ IsPadded "05" ∧ ¬isMatch "05" "5.0" = true := by
  have written : Decimal.ofInt (-5) = "-5" := by decide
  have canonical : Canonical "-5" (-5) := written ▸ Decimal.canonical_ofInt (-5)
  have read : NumberText ".-50e2" ⟨-50, -1⟩ := (parse?_eq_some_iff _ _).mp (by decide)
  have value : (⟨-50, -1⟩ : Numeral).value = ((-5 : Int) : ℚ) := by norm_num [Numeral.value]
  have padded : IsPadded "05" := ⟨[], [0x35], .inl rfl, by decide, by decide⟩
  refine ⟨(matches_exactly _ _).1.mpr (.inr ⟨-5, _, canonical, by decide, read, value⟩), padded, ?_⟩
  rw [(matches_exactly _ _).2 (.inl padded)]
  decide

end Verify

end DatePattern
