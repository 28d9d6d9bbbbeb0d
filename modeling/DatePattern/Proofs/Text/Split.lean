import DatePattern.Text.Basic
import Mathlib.Tactic

/-!
# Joining and splitting texts

Splitting at a byte is the inverse of joining with it, as long as no part holds that byte:

- `Text.span_until`: what is free of a separator ends where the separator stands;
- `Text.joinWith_splitAtByte`: joining the segments of a text gives the text, always;
- `Text.splitAtByte_joinWith`: splitting joined parts gives the parts, when the separator occurs in
  none of them;
- `Text.cut?_append_cons`, `Text.cut?_of_not_mem`: the same for cutting at the first separator;
- `Text.lines_unlines_append`: lines that hold no line feed are read back, whatever follows them.
-/

namespace DatePattern.Text

/-! ## Joining -/

theorem joinWith_cons (separator first : Text) (rest : List Text) :
    joinWith separator (first :: rest) = first ++ rest.flatMap fun part => separator ++ part := by
  induction rest generalizing first with
  | nil => exact (List.append_nil first).symm
  | cons next rest ih =>
    rw [List.flatMap_cons, List.append_assoc, ← ih next, ← List.append_assoc]
    rfl

theorem joinWith_append_cons (separator : Text) {front : List Text} (some : front ≠ [])
    (part : Text) (behind : List Text) :
    joinWith separator (front ++ part :: behind) =
      joinWith separator front ++ separator ++ joinWith separator (part :: behind) := by
  obtain ⟨first, rest, rfl⟩ := List.exists_cons_of_ne_nil some
  simp [joinWith_cons]

theorem mem_joinWith {separator : Text} {parts : List Text} {b : UInt8}
    (inside : b ∈ joinWith separator parts) : b ∈ separator ∨ ∃ part ∈ parts, b ∈ part := by
  cases parts with
  | nil => exact absurd inside List.not_mem_nil
  | cons first rest =>
    rw [joinWith_cons, List.mem_append, List.mem_flatMap] at inside
    rcases inside with inside | ⟨part, listed, inside⟩
    · exact .inr ⟨first, List.mem_cons_self, inside⟩
    · exact (List.mem_append.mp inside).imp_right fun inside =>
        ⟨part, List.mem_cons_of_mem _ listed, inside⟩

theorem mem_joinWith_of_mem (separator : Text) {parts : List Text} {part : Text}
    (listed : part ∈ parts) {b : UInt8} (inside : b ∈ part) : b ∈ joinWith separator parts := by
  cases parts with
  | nil => exact absurd listed List.not_mem_nil
  | cons first rest =>
    rw [joinWith_cons, List.mem_append, List.mem_flatMap]
    rcases List.mem_cons.mp listed with rfl | listed
    · exact .inl inside
    · exact .inr ⟨part, listed, List.mem_append_right _ inside⟩

/-! ## Up to a separator -/

section Span

variable {α : Type} {front : List α}

theorem span_append {p : α → Bool} (pass : front.all p = true) (rest : List α)
    (stop : ∀ x ∈ rest.head?, p x = false) :
    (front ++ rest).takeWhile p = front ∧ (front ++ rest).dropWhile p = rest := by
  have all := List.all_eq_true.mp pass
  rw [List.takeWhile_append_of_pos all, List.dropWhile_append_of_pos all]
  cases rest with
  | nil => simp
  | cons x rest => simp [stop x rfl]

/-- What is free of a separator ends where the separator stands. -/
theorem span_until [BEq α] [LawfulBEq α] {separator : α} (free : separator ∉ front) (rest : List α)
    (stop : ∀ x ∈ rest.head?, x = separator) :
    (front ++ rest).takeWhile (· != separator) = front ∧
      (front ++ rest).dropWhile (· != separator) = rest := by
  refine span_append (List.all_eq_true.mpr fun x mem => ?_) rest fun x mem => ?_
  · exact bne_iff_ne.mpr fun same => free (same ▸ mem)
  · rw [stop x mem]
    exact bne_self_eq_false separator

end Span

/-! ## Splitting at every separator -/

variable {separator : UInt8} {before : Text}

theorem splitAtByte_ne_nil (separator : UInt8) (text : Text) :
    splitAtByte separator text ≠ [] := by
  cases text with
  | nil => simp [splitAtByte]
  | cons b rest =>
    rw [splitAtByte]
    split <;> [simp; split_ifs <;> simp]

/-- Joining the segments of a text gives the text. -/
theorem joinWith_splitAtByte (separator : UInt8) (text : Text) :
    joinWith [separator] (splitAtByte separator text) = text := by
  induction text with
  | nil => rfl
  | cons b rest ih =>
    rw [splitAtByte]
    obtain ⟨segment, segments, split⟩ :=
      List.exists_cons_of_ne_nil (splitAtByte_ne_nil separator rest)
    rw [split] at ih ⊢
    rw [joinWith_cons] at ih
    by_cases same : b = separator
    · simp only [if_pos same]
      rw [joinWith_cons, List.flatMap_cons, List.append_assoc, ih, same]
      rfl
    · simp only [if_neg same]
      rw [joinWith_cons, List.cons_append, ih]

/-- The bytes of a segment are bytes of the text. -/
theorem mem_of_mem_splitAtByte {text segment : Text} (listed : segment ∈ splitAtByte separator text)
    {b : UInt8} (inside : b ∈ segment) : b ∈ text := by
  rw [← joinWith_splitAtByte separator text]
  exact mem_joinWith_of_mem _ listed inside

/-- No segment holds the separator. -/
theorem not_mem_of_mem_splitAtByte {text segment : Text}
    (listed : segment ∈ splitAtByte separator text) : separator ∉ segment := by
  induction text generalizing segment with
  | nil =>
    rw [List.mem_singleton.mp listed]
    exact List.not_mem_nil
  | cons b rest ih =>
    obtain ⟨first, others, split⟩ :=
      List.exists_cons_of_ne_nil (splitAtByte_ne_nil separator rest)
    rw [split] at ih
    rw [splitAtByte, split] at listed
    by_cases same : b = separator
    · simp only [if_pos same] at listed
      rcases List.mem_cons.mp listed with rfl | listed
      · exact List.not_mem_nil
      · exact ih listed
    · simp only [if_neg same] at listed
      rcases List.mem_cons.mp listed with rfl | listed
      · exact List.not_mem_cons_of_ne_of_not_mem (Ne.symm same) (ih List.mem_cons_self)
      · exact ih (List.mem_cons_of_mem _ listed)

theorem splitAtByte_of_not_mem {text : Text} (h : separator ∉ text) :
    splitAtByte separator text = [text] := by
  induction text with
  | nil => rfl
  | cons b rest ih =>
    rw [List.mem_cons, not_or] at h
    rw [splitAtByte, ih h.2]
    simp [Ne.symm h.1]

theorem splitAtByte_append_cons (h : separator ∉ before) (rest : Text) :
    splitAtByte separator (before ++ separator :: rest) =
      before :: splitAtByte separator rest := by
  induction before with
  | nil =>
    obtain ⟨segment, segments, split⟩ :=
      List.exists_cons_of_ne_nil (splitAtByte_ne_nil separator rest)
    rw [List.nil_append, splitAtByte, split]
    simp
  | cons b before ih =>
    rw [List.mem_cons, not_or] at h
    rw [List.cons_append, splitAtByte, ih h.2]
    simp [Ne.symm h.1]

/-- Splitting joined parts gives the parts. -/
theorem splitAtByte_joinWith {parts : List Text} (some : parts ≠ [])
    (free : ∀ part ∈ parts, separator ∉ part) :
    splitAtByte separator (joinWith [separator] parts) = parts := by
  induction parts with
  | nil => exact absurd rfl some
  | cons part rest ih =>
    obtain ⟨first, others⟩ := List.forall_mem_cons.mp free
    cases rest with
    | nil => exact splitAtByte_of_not_mem first
    | cons next rest =>
      have joined : joinWith [separator] (part :: next :: rest)
          = part ++ separator :: joinWith [separator] (next :: rest) := by
        rw [joinWith, List.append_assoc]
        · rfl
        · simp
      rw [joined, splitAtByte_append_cons first, ih (List.cons_ne_nil _ _) others]

/-! ## Cutting at the first separator -/

/-- Cutting at a byte takes what stands before the first one and what follows it. -/
theorem cut?_byte (separator : UInt8) (text : Text) :
    cut? [separator] text =
      if separator ∈ text then
        some (text.takeWhile (· != separator), (text.dropWhile (· != separator)).drop 1)
      else none := by
  induction text with
  | nil => rfl
  | cons b rest ih =>
    rw [cut?]
    by_cases hb : b = separator
    · subst hb
      simp
    · have other : ¬ separator = b := fun h => hb h.symm
      rw [ih]
      by_cases hr : separator ∈ rest <;> simp [hb, other, hr]

theorem cut?_of_not_mem {text : Text} (h : separator ∉ text) : cut? [separator] text = none := by
  rw [cut?_byte, if_neg h]

theorem cut?_append_cons (h : separator ∉ before) (rest : Text) :
    cut? [separator] (before ++ separator :: rest) = some (before, rest) := by
  obtain ⟨taken, left⟩ := span_until h (separator :: rest) (by simp)
  have mem : separator ∈ before ++ separator :: rest := by simp
  rw [cut?_byte, if_pos mem, taken, left]
  rfl

/-! ## Lines -/

theorem unlines_cons (line : Text) (rest : List Text) :
    unlines (line :: rest) = line ++ 0x0A :: unlines rest := by
  rw [unlines, List.flatMap_cons, List.append_assoc]
  rfl

/-- Lines are read back, whatever follows them. -/
theorem lines_unlines_append {parts : List Text} (free : ∀ part ∈ parts, 0x0A ∉ part)
    (rest : Text) : (unlines parts ++ rest).lines = parts ++ rest.lines := by
  induction parts with
  | nil => rfl
  | cons part parts ih =>
    obtain ⟨first, others⟩ := List.forall_mem_cons.mp free
    rw [unlines_cons, List.append_assoc, lines, List.cons_append, splitAtByte_append_cons first]
    exact congrArg _ (ih others)

/-! ## Trimming -/

/-- Nothing is trimmed when the last byte stays. -/
theorem trimRightWhile_of_getLast? {p : UInt8 → Bool} {text : Text}
    (kept : ∀ b, text.getLast? = some b → p b = false) : text.trimRightWhile p = text := by
  rcases List.eq_nil_or_concat text with rfl | ⟨front, b, rfl⟩
  · rfl
  · rw [List.concat_eq_append] at *
    have stays : ¬p b = true := by
      rw [kept b List.getLast?_concat]
      exact Bool.false_ne_true
    rw [trimRightWhile, List.reverse_concat, List.dropWhile_cons_of_neg stays, List.reverse_cons,
      List.reverse_reverse]

end DatePattern.Text
