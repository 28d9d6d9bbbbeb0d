import DatePattern.Proofs.Text.Utf8
import DatePattern.Text.Prose
import Mathlib.Data.List.SplitBy

/-!
# Short descriptions

A description is a text on one line with single spaces, and at most 200 bytes of it. What is too
long is cut at a byte, which may fall inside a character.

- `Text.spaced`: a text with each of its longest runs of white space as one space;
- `Text.singleSpaced_eq`: reading byte by byte comes to the same;
- `Text.isUtf8_spaced`: no character is torn by that;
- `Text.description_valid_iff`: what a description looks like, and when it is still well-formed.
-/

namespace DatePattern.Text

/-! ## Runs of white space -/

/-- The longest runs of white space and of other bytes. -/
def gapRuns (text : Text) : List Text := text.splitBy fun a b => isGap a == isGap b

/-- A run with white space as one space. -/
def spacedRun (run : Text) : Text := if run.all isGap then [0x20] else run

/-- A text with each run of white space as one space. -/
def spaced (text : Text) : Text := (gapRuns text).flatMap spacedRun

/-- A run is all white space or has none. -/
theorem uniform_of_isChain {run : Text} (h : run.IsChain fun a b => isGap a == isGap b) :
    run.all isGap = true ∨ ∀ b ∈ run, isGap b = false := by
  induction run with
  | nil => exact .inl rfl
  | cons a run ih =>
    rw [List.isChain_cons] at h
    cases run with
    | nil =>
      cases gap : isGap a with
      | true => exact .inl (by simp [gap])
      | false => exact .inr (by simp [gap])
    | cons b run =>
      have same : isGap a = isGap b := beq_iff_eq.mp (h.1 b rfl)
      rcases ih h.2 with gaps | none
      · refine .inl ?_
        rw [List.all_cons, gaps, same, (List.all_eq_true.mp gaps) b List.mem_cons_self]
        rfl
      · refine .inr (List.forall_mem_cons.mpr ⟨?_, none⟩)
        rw [same]
        exact none b List.mem_cons_self

theorem singleSpacedFrom_gaps {run : Text} (gaps : run.all isGap = true) (rest : Text) :
    singleSpacedFrom true (run ++ rest) = singleSpacedFrom true rest := by
  induction run with
  | nil => rfl
  | cons b run ih =>
    rw [List.all_cons, Bool.and_eq_true] at gaps
    rw [List.cons_append, singleSpacedFrom, if_pos gaps.1, if_pos rfl, ih gaps.2]

/-- A run of white space is read as one space. -/
theorem singleSpacedFrom_gapRun {run : Text} (some : run ≠ []) (gaps : run.all isGap = true)
    (rest : Text) : singleSpacedFrom false (run ++ rest) = 0x20 :: singleSpacedFrom true rest := by
  cases run with
  | nil => exact absurd rfl some
  | cons b run =>
    rw [List.all_cons, Bool.and_eq_true] at gaps
    rw [List.cons_append, singleSpacedFrom, if_pos gaps.1, if_neg Bool.false_ne_true,
      singleSpacedFrom_gaps gaps.2]

/-- Other bytes are kept, and end a run of white space. -/
theorem singleSpacedFrom_wordRun {run : Text} (some : run ≠ []) (none : ∀ b ∈ run, isGap b = false)
    (inGap : Bool) (rest : Text) :
    singleSpacedFrom inGap (run ++ rest) = run ++ singleSpacedFrom false rest := by
  induction run generalizing inGap with
  | nil => exact absurd rfl some
  | cons b run ih =>
    obtain ⟨first, others⟩ := List.forall_mem_cons.mp none
    rw [List.cons_append, singleSpacedFrom, if_neg (Bool.eq_false_iff.mp first), List.cons_append]
    cases run with
    | nil => rfl
    | cons next run => rw [ih (List.cons_ne_nil _ _) others]

/-- Runs that take turns are read one after the other. Behind white space the next run has none,
so it does not matter that its space is already there. -/
theorem singleSpacedFrom_flatten {runs : List Text} (some : [] ∉ runs)
    (chains : ∀ run ∈ runs, run.IsChain fun a b => isGap a == isGap b)
    (apart : runs.IsChain fun a b => ∃ ha hb, (isGap (a.getLast ha) == isGap (b.head hb)) = false)
    (inGap : Bool) (turn : inGap = true → ∀ run ∈ runs.head?, ∀ b ∈ run.head?, isGap b = false) :
    singleSpacedFrom inGap runs.flatten = runs.flatMap spacedRun := by
  induction runs generalizing inGap with
  | nil => rfl
  | cons run runs ih =>
    rw [List.mem_cons, not_or] at some
    obtain ⟨chain, chains⟩ := List.forall_mem_cons.mp chains
    rw [List.isChain_cons] at apart
    have filled : run ≠ [] := Ne.symm some.1
    rw [List.flatten_cons, List.flatMap_cons]
    rcases uniform_of_isChain chain with gaps | none
    · -- white space: the run before was none, so its space is written here
      have other : inGap = false := by
        cases inGap with
        | false => rfl
        | true =>
          have first := turn rfl run rfl (run.head filled) (List.head?_eq_some_head filled)
          rw [List.all_eq_true.mp gaps _ (List.head_mem filled)] at first
          exact first
      rw [other, singleSpacedFrom_gapRun filled gaps, spacedRun, if_pos gaps]
      rw [ih some.2 chains apart.2 true]
      · rfl
      · intro _ next listed b first
        obtain ⟨ha, hb, differ⟩ := apart.1 next listed
        rw [List.all_eq_true.mp gaps _ (List.getLast_mem ha)] at differ
        rw [List.head?_eq_some_head hb] at first
        cases first
        simpa using differ
    · have word : run.all isGap = false := by
        rw [List.all_eq_false]
        exact ⟨run.head filled, List.head_mem filled, by simp [none _ (List.head_mem filled)]⟩
      rw [singleSpacedFrom_wordRun filled none, spacedRun, if_neg (Bool.eq_false_iff.mp word),
        ih some.2 chains apart.2 false (fun h => absurd h Bool.false_ne_true)]

/-- **Reading byte by byte** replaces the longest runs of white space. -/
theorem singleSpaced_eq (text : Text) : text.singleSpaced = text.spaced := by
  have runs : text.splitBy (fun a b => isGap a == isGap b) = gapRuns text := rfl
  obtain ⟨whole, some, chains, apart⟩ := List.splitBy_eq_iff.mp runs
  have read := singleSpacedFrom_flatten some chains apart false
    (fun h => absurd h Bool.false_ne_true)
  rw [← whole] at read
  exact read

/-! ## What is left of white space -/

theorem mem_singleSpacedFrom {inGap : Bool} {text : Text} {b : UInt8}
    (inside : b ∈ singleSpacedFrom inGap text) : b = 0x20 ∨ isGap b = false := by
  induction text generalizing inGap with
  | nil => exact absurd inside List.not_mem_nil
  | cons a rest ih =>
    rw [singleSpacedFrom] at inside
    split_ifs at inside with gap already
    · exact ih inside
    · rcases List.mem_cons.mp inside with rfl | inside
      · exact .inl rfl
      · exact ih inside
    · rcases List.mem_cons.mp inside with rfl | inside
      · exact .inr (Bool.eq_false_iff.mpr gap)
      · exact ih inside

theorem head?_singleSpacedFrom (text : Text) :
    (singleSpacedFrom true text).head? ≠ some 0x20 := by
  induction text with
  | nil => exact (Option.some_ne_none _).symm
  | cons a rest ih =>
    rw [singleSpacedFrom, if_pos rfl]
    split_ifs with gap
    · exact ih
    · intro same
      cases same
      exact gap rfl

/-- No space stands beside another. -/
theorem isChain_singleSpacedFrom (inGap : Bool) (text : Text) :
    (singleSpacedFrom inGap text).IsChain fun a b => ¬ (a = 0x20 ∧ b = 0x20) := by
  induction text generalizing inGap with
  | nil => exact List.isChain_nil
  | cons a rest ih =>
    rw [singleSpacedFrom]
    split_ifs with gap already
    · exact ih true
    · refine List.isChain_cons.mpr ⟨?_, ih true⟩
      rintro b first ⟨-, rfl⟩
      exact head?_singleSpacedFrom rest first
    · refine List.isChain_cons.mpr ⟨?_, ih false⟩
      rintro b - ⟨rfl, -⟩
      exact gap rfl

/-! ## Characters -/

theorem toNat_lt_of_isGap {b : UInt8} (gap : isGap b = true) : b.toNat < 0x80 := by
  simp only [isGap, Bool.or_eq_true, decide_eq_true_eq] at gap
  rcases gap with (((rfl | rfl) | rfl) | rfl) | rfl <;> decide

theorem exists_singleSpacedFrom (inGap : Bool) (cs : List Char) :
    ∃ ds, singleSpacedFrom inGap (ofChars cs) = ofChars ds := by
  induction cs generalizing inGap with
  | nil => exact ⟨[], rfl⟩
  | cons c cs ih =>
    rw [ofChars_cons]
    by_cases white : ∃ b ∈ ofChar c, isGap b = true
    · -- white space is a character by itself, and so is the space for it
      obtain ⟨b, inside, gap⟩ := white
      have single : ofChar c = [b] :=
        (Utf8.shape_of_ascii (Utf8.shape_encode c) inside (toNat_lt_of_isGap gap)).1
      obtain ⟨ds, read⟩ := ih true
      rw [single, List.singleton_append, singleSpacedFrom, if_pos gap, read]
      cases inGap with
      | true => exact ⟨ds, rfl⟩
      | false => exact ⟨' ' :: ds, rfl⟩
    · have none : ∀ b ∈ ofChar c, isGap b = false := by
        intro b inside
        exact Bool.eq_false_iff.mpr fun gap => white ⟨b, inside, gap⟩
      have some : ofChar c ≠ [] := String.utf8EncodeChar_ne_nil
      obtain ⟨ds, read⟩ := ih false
      rw [singleSpacedFrom_wordRun some none, read]
      exact ⟨c :: ds, (ofChars_cons c ds).symm⟩

theorem isUtf8_spaced {text : Text} (valid : text.isUtf8 = true) : text.spaced.isUtf8 = true := by
  obtain ⟨cs, rfl⟩ := (isUtf8_iff text).mp valid
  rw [← singleSpaced_eq, isUtf8_iff]
  exact exists_singleSpacedFrom false cs

theorem mem_spaced {text : Text} {b : UInt8} (inside : b ∈ text.spaced) :
    b = 0x20 ∨ isGap b = false := by
  rw [← singleSpaced_eq] at inside
  exact mem_singleSpacedFrom inside

theorem isChain_spaced (text : Text) :
    text.spaced.IsChain fun a b => ¬ (a = 0x20 ∧ b = 0x20) := by
  rw [← singleSpaced_eq]
  exact isChain_singleSpacedFrom false text

/-! ## Descriptions -/

/-- A description is the whole line, or what it starts with and three dots. -/
theorem description_cases (text : Text) :
    (text.spaced.length ≤ 200 ∧ text.description = text.spaced) ∨
      (200 < text.spaced.length ∧ text.description = text.spaced.take 197 ++ "...") := by
  rw [description, singleSpaced_eq]
  by_cases long : 200 < text.spaced.length
  · exact .inr ⟨long, if_pos long⟩
  · exact .inl ⟨Nat.le_of_not_lt long, if_neg long⟩

theorem length_description_le (text : Text) : text.description.length ≤ 200 := by
  rcases description_cases text with ⟨short, whole⟩ | ⟨-, cut⟩
  · rw [whole]
    exact short
  · rw [cut, List.length_append]
    exact Nat.add_le_add_right (List.length_take_le 197 _) 3

theorem mem_description {text : Text} {b : UInt8} (inside : b ∈ text.description) :
    b = 0x20 ∨ isGap b = false := by
  rcases description_cases text with ⟨-, whole⟩ | ⟨-, cut⟩
  · rw [whole] at inside
    exact mem_spaced inside
  · rw [cut, List.mem_append] at inside
    rcases inside with inside | inside
    · exact mem_spaced (List.mem_of_mem_take inside)
    · have dot : b = 0x2E := List.eq_of_mem_replicate (n := 3) inside
      rw [dot]
      exact .inr rfl

theorem isChain_description (text : Text) :
    text.description.IsChain fun a b => ¬ (a = 0x20 ∧ b = 0x20) := by
  rcases description_cases text with ⟨-, whole⟩ | ⟨-, cut⟩
  · rw [whole]
    exact isChain_spaced text
  · rw [cut, List.isChain_append]
    refine ⟨(isChain_spaced text).take 197, by decide, ?_⟩
    -- the cut may leave a space at the end, but a dot follows it
    rintro a - b dot ⟨-, rfl⟩
    exact absurd dot (by decide)

theorem isUtf8_description_iff {text : Text} (valid : text.isUtf8 = true) :
    text.description.isUtf8 = true ↔
      text.spaced.length ≤ 200 ∨ ∃ n, (ofChars (text.spaced.chars.take n)).length = 197 := by
  have line := isUtf8_spaced valid
  rcases description_cases text with ⟨short, whole⟩ | ⟨long, cut⟩
  · rw [whole]
    exact iff_of_true line (.inl short)
  · rw [cut, isUtf8_append_ascii (by decide), or_iff_right (Nat.not_le_of_lt long)]
    exact isUtf8_take_iff line (by omega)

/-- **When a description is well-formed.** The description of a text in well-formed UTF-8 has at
most 200 bytes, no line feed, no tab and no two spaces side by side. It is the text with each run of
white space as one space, or the first 197 bytes of that and three dots when there are more than
200. It is well-formed unless these 197 bytes end inside a character. -/
theorem description_valid_iff (text : Text) (valid : text.isUtf8 = true) :
    text.description.length ≤ 200 ∧
    0x0A ∉ text.description ∧ 0x09 ∉ text.description ∧
    ¬ [0x20, 0x20] <:+: text.description ∧
    (text.spaced.length ≤ 200 ∧ text.description = text.spaced ∨
      200 < text.spaced.length ∧
        ∃ front, front <+: text.spaced ∧ front.length = 197 ∧
          text.description = front ++ "...") ∧
    (text.description.isUtf8 = true ↔
      text.spaced.length ≤ 200 ∨ ∃ n, (ofChars (text.spaced.chars.take n)).length = 197) := by
  refine ⟨length_description_le text, ?_, ?_, ?_, ?_, isUtf8_description_iff valid⟩
  · intro inside
    exact absurd (mem_description inside) (by decide)
  · intro inside
    exact absurd (mem_description inside) (by decide)
  · intro inside
    have chain := List.IsChain.infix (isChain_description text) inside
    rw [List.isChain_pair] at chain
    exact chain ⟨rfl, rfl⟩
  · refine (description_cases text).imp_right ?_
    rintro ⟨long, cut⟩
    refine ⟨long, text.spaced.take 197, List.take_prefix _ _, ?_, cut⟩
    rw [List.length_take]
    omega

/-- Behind one space, characters of two bytes are cut between two of them. -/
theorem description_valid_iff_between :
    let text := ofChars ('\n' :: '\t' :: List.replicate 100 'é')
    text.isUtf8 = true ∧ text.spaced = ofChars (' ' :: List.replicate 100 'é') ∧
      text.description = ofChars (' ' :: List.replicate 98 'é') ++ "..." ∧
      text.description.isUtf8 = true := by
  intro text
  have valid : text.isUtf8 = true := (isUtf8_iff text).mpr ⟨_, rfl⟩
  have shown : text.spaced = ofChars (' ' :: List.replicate 100 'é') ∧
      text.description = ofChars (' ' :: List.replicate 98 'é') ++ "..." := by decide +kernel
  obtain ⟨-, -, -, -, -, whole⟩ := description_valid_iff text valid
  refine ⟨valid, shown.1, shown.2, whole.mpr (.inr ⟨99, ?_⟩)⟩
  rw [shown.1, chars_ofChars]
  rfl

/-- Characters of two bytes alone are cut in the middle of one. -/
theorem description_cuts_character :
    let text := ofChars (List.replicate 101 'é')
    text.isUtf8 = true ∧ text.description = ofChars (List.replicate 98 'é') ++ 0xC3 :: "..." ∧
      text.description.isUtf8 = false := by
  intro text
  refine ⟨(isUtf8_iff text).mpr ⟨_, rfl⟩, ?_⟩
  decide +kernel

end DatePattern.Text
