/-!
# Bindings

Names or numbers, each bound to a value, in a list without repetition. A binding takes the place of
an earlier one of the same key and goes behind the others if there is none. Registries, adapters,
the options of a connection and the files of a directory are kept this way.
-/

namespace DatePattern.Bindings

variable {κ β : Type} [DecidableEq κ]

/-- Binds a key, in place of an earlier binding. -/
def bind (key : κ) (value : β) : List (κ × β) → List (κ × β)
  | [] => [(key, value)]
  | (k, v) :: rest => if k = key then (key, value) :: rest else (k, v) :: bind key value rest

/-- Binds several keys, the later over the earlier. -/
def bindAll (later earlier : List (κ × β)) : List (κ × β) :=
  later.foldl (fun entries (key, value) => bind key value entries) earlier

/-! ## The keys -/

/-- Binding a key adds it to the keys, if it was not among them. -/
theorem mem_keys_bind (key k : κ) (value : β) (entries : List (κ × β)) :
    k ∈ (bind key value entries).map Prod.fst ↔ k = key ∨ k ∈ entries.map Prod.fst := by
  induction entries with
  | nil => simp [bind]
  | cons entry rest ih =>
    obtain ⟨other, v⟩ := entry
    rw [bind]
    by_cases same : other = key
    · simp [same]
    · rw [if_neg same, List.map_cons, List.mem_cons, ih, List.map_cons, List.mem_cons]
      exact or_left_comm

theorem nodup_keys_bind (key : κ) (value : β) {entries : List (κ × β)}
    (distinct : (entries.map Prod.fst).Nodup) :
    ((bind key value entries).map Prod.fst).Nodup := by
  induction entries with
  | nil => simp [bind]
  | cons entry rest ih =>
    obtain ⟨other, v⟩ := entry
    rw [List.map_cons, List.nodup_cons] at distinct
    rw [bind]
    by_cases same : other = key
    · rw [if_pos same, List.map_cons, List.nodup_cons]
      exact same ▸ distinct
    · rw [if_neg same, List.map_cons, List.nodup_cons, mem_keys_bind]
      exact ⟨not_or.mpr ⟨same, distinct.1⟩, ih distinct.2⟩

theorem nodup_keys_bindAll (later : List (κ × β)) {earlier : List (κ × β)}
    (distinct : (earlier.map Prod.fst).Nodup) : ((bindAll later earlier).map Prod.fst).Nodup := by
  induction later generalizing earlier with
  | nil => exact distinct
  | cons entry rest ih => exact ih (nodup_keys_bind entry.1 entry.2 distinct)

/-! ## What is found -/

variable [BEq κ] [LawfulBEq κ]

theorem lookup_entry (key k : κ) (value : β) (rest : List (κ × β)) :
    ((key, value) :: rest).lookup k = if k = key then some value else rest.lookup k := by
  rw [List.lookup_cons]
  by_cases same : k = key
  · simp [same]
  · simp [same, beq_eq_false_iff_ne.mpr same]

theorem lookup_bind (key k : κ) (value : β) (entries : List (κ × β)) :
    (bind key value entries).lookup k = if k = key then some value else entries.lookup k := by
  induction entries with
  | nil => exact lookup_entry key k value []
  | cons entry rest ih =>
    obtain ⟨other, v⟩ := entry
    rw [bind, lookup_entry]
    by_cases same : other = key
    · rw [if_pos same, lookup_entry, same]
      by_cases asked : k = key <;> simp [asked]
    · rw [if_neg same, lookup_entry, ih]
      by_cases found : k = other
      · simp [found, same]
      · simp [found]

/-- The last binding of a key counts, and what was there before only for other keys. -/
theorem lookup_bindAll (later earlier : List (κ × β)) (key : κ) :
    (bindAll later earlier).lookup key = (later.reverse.lookup key).or (earlier.lookup key) := by
  induction later generalizing earlier with
  | nil => rfl
  | cons entry rest ih =>
    obtain ⟨k, v⟩ := entry
    show (bindAll rest (bind k v earlier)).lookup key = _
    rw [ih, lookup_bind, List.reverse_cons, List.lookup_append, Option.or_assoc, lookup_entry]
    by_cases same : key = k
    · rw [if_pos same, if_pos same]
      rfl
    · rw [if_neg same, if_neg same]
      rfl

/-- A table whose keys are distinct holds what it finds. -/
theorem mem_iff_lookup {entries : List (κ × β)} (distinct : (entries.map Prod.fst).Nodup)
    (key : κ) (value : β) : (key, value) ∈ entries ↔ entries.lookup key = some value := by
  induction entries with
  | nil => simp
  | cons entry rest ih =>
    obtain ⟨other, v⟩ := entry
    rw [List.map_cons, List.nodup_cons] at distinct
    obtain ⟨fresh, distinctRest⟩ := distinct
    rw [List.mem_cons, lookup_entry, Prod.mk.injEq]
    by_cases same : key = other
    · subst same
      have later : (key, value) ∉ rest := fun mem => fresh (List.mem_map.mpr ⟨_, mem, rfl⟩)
      simp [later, eq_comm]
    · simp [same, ih distinctRest]

end DatePattern.Bindings
