import DatePattern.Text.Basic
import Mathlib.Tactic

/-!
# Sorting texts

The bytewise comparison is the lexicographic order on lists of bytes, and sorting puts texts into
that order without losing or repeating any:

- `Text.le_iff`: the comparison and the order;
- `Text.append_lt_append`: of texts that start with as many bytes, those bytes are compared first;
- `Text.perm_sort`, `Text.pairwise_sort`: what sorting gives.
-/

namespace DatePattern.Text

theorem le_iff (a b : Text) : le a b = true ↔ a ≤ b := by
  induction a generalizing b with
  | nil => simp [le, List.nil_le]
  | cons x a ih =>
    cases b with
    | nil => simp [le]
    | cons y b =>
      rw [le, List.cons_le_cons_iff, ← ih b]
      simp

/-- Texts that differ in front are in the order of their fronts, whatever follows. -/
theorem append_lt_append {a b : Text} (lt : a < b) (length : a.length = b.length) (c d : Text) :
    a ++ c < b ++ d := by
  induction a generalizing b with
  | nil =>
    rw [List.eq_nil_of_length_eq_zero length.symm] at lt
    exact absurd lt (List.lt_irrefl _)
  | cons x a ih =>
    cases b with
    | nil => cases length
    | cons y b =>
      rw [List.cons_append, List.cons_append, List.cons_lt_cons_iff]
      rcases List.cons_lt_cons_iff.mp lt with first | ⟨same, rest⟩
      · exact .inl first
      · exact .inr ⟨same, ih rest (Nat.succ.inj length)⟩

section Sorting

variable {α : Type} (key : α → Text)

theorem perm_insertBy (x : α) (xs : List α) : (insertBy key x xs).Perm (x :: xs) := by
  induction xs with
  | nil => exact .refl _
  | cons y ys ih =>
    rw [insertBy]
    split
    · exact .refl _
    · exact (ih.cons y).trans (.swap x y ys)

theorem perm_sortBy (xs : List α) : (sortBy key xs).Perm xs := by
  induction xs with
  | nil => exact .refl _
  | cons x xs ih => exact (perm_insertBy key x _).trans (ih.cons x)

/-- An element is put where it belongs: behind what it does not precede, before the rest. -/
theorem pairwise_insertBy (x : α) {xs : List α}
    (sorted : xs.Pairwise fun a b => key a ≤ key b) :
    (insertBy key x xs).Pairwise fun a b => key a ≤ key b := by
  induction xs with
  | nil => exact List.pairwise_singleton _ x
  | cons y ys ih =>
    obtain ⟨first, rest⟩ := List.pairwise_cons.mp sorted
    rw [insertBy]
    by_cases before : le (key x) (key y) = true
    · rw [if_pos before]
      have le := (le_iff _ _).mp before
      refine List.pairwise_cons.mpr ⟨fun z mem => ?_, sorted⟩
      rcases List.mem_cons.mp mem with rfl | later
      · exact le
      · exact List.le_trans le (first z later)
    · rw [if_neg before]
      refine List.pairwise_cons.mpr ⟨fun z mem => ?_, ih rest⟩
      rcases List.mem_cons.mp ((perm_insertBy key x ys).mem_iff.mp mem) with rfl | later
      · exact (List.le_total _ _).resolve_left (mt (le_iff _ _).mpr before)
      · exact first z later

theorem pairwise_sortBy (xs : List α) : (sortBy key xs).Pairwise fun a b => key a ≤ key b := by
  induction xs with
  | nil => exact .nil
  | cons x xs ih => exact pairwise_insertBy key x ih

end Sorting

theorem perm_sort (texts : List Text) : (sort texts).Perm texts := perm_sortBy id texts

theorem pairwise_sort (texts : List Text) : (sort texts).Pairwise (· ≤ ·) :=
  pairwise_sortBy id texts

end DatePattern.Text
