import DatePattern.Proofs.Text.Utf8

/-!
# Replacing parts of a text

- `Text.replace_cons`, `Text.replace_append`: replacing from the left, by one byte that starts no
  occurrence or by one occurrence; the same for counting;
- `Text.replace_singleton`: replacing a text of one byte is replacing that byte.
-/

namespace DatePattern.Text

/-! ## Replacing and counting -/

section Occurrences

variable {old : Text}

theorem replaceFrom_eq_drop (new : Text) (skip : Nat) (text : Text) :
    replaceFrom old new skip text = replaceFrom old new 0 (text.drop skip) :=
  Utf8.eq_drop_of_skip (fun _ => replaceFrom old new) (fun _ skip => by cases skip <;> rfl)
    (fun _ _ _ _ => rfl) 0 skip text

theorem countFrom_eq_drop (skip : Nat) (text : Text) :
    countFrom old skip text = countFrom old 0 (text.drop skip) :=
  Utf8.eq_drop_of_skip (fun _ => countFrom old) (fun _ skip => by cases skip <;> rfl)
    (fun _ _ _ _ => rfl) 0 skip text

theorem replace_cons (new : Text) {b : UInt8} {rest : Text} (h : ¬ old <+: b :: rest) :
    replace (b :: rest) old new = b :: replace rest old new := by
  rw [replace, replaceFrom, if_neg (by rwa [List.isPrefixOf_iff_prefix])]
  rfl

theorem occurrences_cons {b : UInt8} {rest : Text} (h : ¬ old <+: b :: rest) :
    occurrences (b :: rest) old = occurrences rest old := by
  rw [occurrences, countFrom, if_neg (by rwa [List.isPrefixOf_iff_prefix])]
  rfl

theorem replace_append (new rest : Text) (some : old ≠ []) :
    replace (old ++ rest) old new = new ++ replace rest old new := by
  obtain ⟨b, tail, rfl⟩ := List.exists_cons_of_ne_nil some
  have front : (b :: tail).isPrefixOf (b :: (tail ++ rest)) = true :=
    List.isPrefixOf_iff_prefix.mpr (List.prefix_append (b :: tail) rest)
  rw [replace, List.cons_append, replaceFrom, if_pos front, replaceFrom_eq_drop, List.length_cons,
    Nat.add_sub_cancel, List.drop_left]
  rfl

theorem occurrences_append (rest : Text) (some : old ≠ []) :
    occurrences (old ++ rest) old = 1 + occurrences rest old := by
  obtain ⟨b, tail, rfl⟩ := List.exists_cons_of_ne_nil some
  have front : (b :: tail).isPrefixOf (b :: (tail ++ rest)) = true :=
    List.isPrefixOf_iff_prefix.mpr (List.prefix_append (b :: tail) rest)
  rw [occurrences, List.cons_append, countFrom, if_pos front, countFrom_eq_drop, List.length_cons,
    Nat.add_sub_cancel, List.drop_left]
  rfl

end Occurrences

/-! ## Replacing one byte -/

theorem replaceByte_nil (old : UInt8) (new : Text) : replaceByte [] old new = [] := rfl

theorem replaceByte_cons (b : UInt8) (text : Text) (old : UInt8) (new : Text) :
    replaceByte (b :: text) old new
      = (if b = old then new else [b]) ++ replaceByte text old new := rfl

theorem replaceByte_append (a b : Text) (old : UInt8) (new : Text) :
    replaceByte (a ++ b) old new = replaceByte a old new ++ replaceByte b old new :=
  List.flatMap_append ..

theorem replace_singleton (text : Text) (old : UInt8) (new : Text) :
    text.replace [old] new = text.replaceByte old new := by
  rw [replace]
  induction text with
  | nil => rfl
  | cons b text ih =>
    rw [replaceFrom, replaceByte_cons, List.length_singleton, Nat.sub_self, ih]
    by_cases hb : b = old
    · simp [hb]
    · simp [hb, Ne.symm hb]

theorem mem_of_mem_replaceByte {text new : Text} {old b : UInt8}
    (inside : b ∈ text.replaceByte old new) : b ∈ new ∨ b ∈ text := by
  obtain ⟨c, listed, inside⟩ := List.mem_flatMap.mp inside
  split_ifs at inside
  · exact .inl inside
  · rw [List.mem_singleton.mp inside]
    exact .inr listed

end DatePattern.Text
