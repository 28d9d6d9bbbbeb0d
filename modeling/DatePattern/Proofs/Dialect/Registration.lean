import DatePattern.Dialect.Registry
import DatePattern.Proofs.Text.Order

/-!
# What a registry lists

A registry has two tables that every registration writes to: one by name and alias, which answers
for a name, and one by number, from which the names are listed. In both the last registration
wins, but it wins different things:

- `Registry.get?_ofList`, `Registry.ofKind?_ofList`: a name is answered by the last dialect that
  goes by it, a number by the last dialect of that number;
- `Registry.mem_list`, `Registry.nodup_list_iff`: what is listed, and when nothing is listed twice;
- `Registry.Faithful`: the list is the names that are answered by a dialect of that name. It is
  when the dialects last of their number and the dialects that answer to their own names have the
  same names, each once; in particular when no two registrations share a number, a name or an
  alias. A second dialect of the same number takes the first one off the list, though not out of
  the table of names.
-/

namespace DatePattern

/-- The names that a dialect is registered under. -/
def Grammar.keys (g : Grammar) : List Text := (g.name :: g.aliases).map Text.lower

namespace Registry

/-- A registry after registrations, in order. -/
def ofList (dialects : List Grammar) : Registry :=
  dialects.foldl (fun registry g => registry.register g) {}

/-- The last of some dialects that goes by a name, in any case. -/
def lastNamed (dialects : List Grammar) (name : Text) : Option Grammar :=
  dialects.reverse.find? fun g => name.lower ∈ g.keys

/-- The last of some dialects with a number. -/
def lastOfKind (dialects : List Grammar) (kind : Kind) : Option Grammar :=
  dialects.reverse.find? fun g => g.kind = kind

/-- A registry lists, in order and each once, the names that are answered by a dialect of exactly
that name. -/
structure Faithful (registry : Registry) : Prop where
  sorted : registry.list.Pairwise (· ≤ ·)
  distinct : registry.list.Nodup
  mem_iff : ∀ name, name ∈ registry.list ↔ ∃ g, registry.get? name = some g ∧ g.name = name

/-! ## One registration -/

theorem get?_register (registry : Registry) (g : Grammar) (name : Text) :
    (registry.register g).get? name =
      if name.lower ∈ g.keys then some g else registry.get? name := by
  -- over any table, since each name changes the one that the next is bound in
  have table : ∀ (texts : List Text) (names : List (Text × Grammar)),
      (texts.foldl (fun names text => Bindings.bind text.lower g names) names).lookup name.lower =
        if name.lower ∈ texts.map Text.lower then some g else names.lookup name.lower := by
    intro texts
    induction texts with
    | nil => intro names; rfl
    | cons text rest ih =>
      intro names
      rw [List.foldl_cons, ih, Bindings.lookup_bind, List.map_cons]
      by_cases first : name.lower = text.lower <;> simp [first]
  exact table (g.name :: g.aliases) registry.names

theorem ofKind?_register (registry : Registry) (g : Grammar) (kind : Kind) :
    (registry.register g).ofKind? kind =
      if kind = g.kind then some g else registry.ofKind? kind :=
  Bindings.lookup_bind g.kind kind g registry.kinds

/-! ## Registrations in order -/

theorem ofList_concat (dialects : List Grammar) (g : Grammar) :
    ofList (dialects ++ [g]) = (ofList dialects).register g := by
  rw [ofList, List.foldl_append]
  rfl

/-- A name is answered by the last dialect that goes by it. -/
theorem get?_ofList (dialects : List Grammar) (name : Text) :
    (ofList dialects).get? name = lastNamed dialects name := by
  induction dialects using List.reverseRecOn with
  | nil => rfl
  | append_singleton dialects g ih =>
    rw [ofList_concat, get?_register, ih, lastNamed, lastNamed, List.reverse_concat,
      List.find?_cons]
    by_cases named : name.lower ∈ g.keys <;> simp [named]

/-- A number is answered by the last dialect of that number. -/
theorem ofKind?_ofList (dialects : List Grammar) (kind : Kind) :
    (ofList dialects).ofKind? kind = lastOfKind dialects kind := by
  induction dialects using List.reverseRecOn with
  | nil => rfl
  | append_singleton dialects g ih =>
    rw [ofList_concat, ofKind?_register, ih, lastOfKind, lastOfKind, List.reverse_concat,
      List.find?_cons]
    by_cases same : kind = g.kind
    · simp [same]
    · simp [same, Ne.symm same]

theorem nodup_kinds_ofList (dialects : List Grammar) :
    ((ofList dialects).kinds.map Prod.fst).Nodup := by
  induction dialects using List.reverseRecOn with
  | nil => exact List.nodup_nil
  | append_singleton dialects g ih =>
    rw [ofList_concat]
    exact Bindings.nodup_keys_bind g.kind g ih

/-! ## The list -/

theorem perm_list (registry : Registry) :
    registry.list.Perm (registry.kinds.map fun entry => entry.2.name) := Text.perm_sort _

theorem mem_kinds_ofList (dialects : List Grammar) (kind : Kind) (g : Grammar) :
    (kind, g) ∈ (ofList dialects).kinds ↔ lastOfKind dialects kind = some g := by
  rw [Bindings.mem_iff_lookup (nodup_kinds_ofList dialects), ← ofKind?_ofList]
  rfl

/-- The names that are listed are those of the dialects last of their number. -/
theorem mem_list (dialects : List Grammar) (name : Text) :
    name ∈ (ofList dialects).list ↔
      ∃ kind g, lastOfKind dialects kind = some g ∧ g.name = name := by
  rw [(perm_list _).mem_iff, List.mem_map]
  constructor
  · rintro ⟨⟨kind, g⟩, mem, named⟩
    exact ⟨kind, g, (mem_kinds_ofList dialects kind g).mp mem, named⟩
  · rintro ⟨kind, g, last, named⟩
    exact ⟨(kind, g), (mem_kinds_ofList dialects kind g).mpr last, named⟩

/-- Nothing is listed twice exactly when no two numbers have last dialects of one name. -/
theorem nodup_list_iff (dialects : List Grammar) :
    (ofList dialects).list.Nodup ↔
      ∀ kind other g h, lastOfKind dialects kind = some g → lastOfKind dialects other = some h →
        g.name = h.name → kind = other := by
  have distinct := nodup_kinds_ofList dialects
  -- the entries are distinct by their numbers, so only their names can repeat
  rw [(perm_list _).nodup_iff, List.nodup_map_iff_inj_on (.of_map _ distinct)]
  constructor
  · intro unique kind other g h lastG lastH named
    have same := unique _ ((mem_kinds_ofList dialects kind g).mpr lastG)
      _ ((mem_kinds_ofList dialects other h).mpr lastH) named
    exact congrArg Prod.fst same
  · rintro unique ⟨kind, g⟩ memG ⟨other, h⟩ memH named
    obtain rfl := unique kind other g h ((mem_kinds_ofList dialects kind g).mp memG)
      ((mem_kinds_ofList dialects other h).mp memH) named
    exact List.inj_on_of_nodup_map distinct memG memH rfl

theorem faithful_iff (dialects : List Grammar) :
    (ofList dialects).Faithful ↔
      (∀ kind other g h, lastOfKind dialects kind = some g → lastOfKind dialects other = some h →
        g.name = h.name → kind = other) ∧
      ∀ name, (∃ kind g, lastOfKind dialects kind = some g ∧ g.name = name) ↔
        ∃ g, lastNamed dialects name = some g ∧ g.name = name := by
  constructor
  · rintro ⟨-, distinct, listed⟩
    refine ⟨(nodup_list_iff dialects).mp distinct, fun name => ?_⟩
    rw [← mem_list, ← get?_ofList]
    exact listed name
  · rintro ⟨distinct, listed⟩
    refine ⟨Text.pairwise_sort _, (nodup_list_iff dialects).mpr distinct, fun name => ?_⟩
    rw [mem_list, get?_ofList]
    exact listed name

/-! ## Registrations that share nothing -/

/-- Among elements of which one at most is sought, the last found is that one. -/
theorem find?_reverse_of_unique {α : Type} {p : α → Bool} {xs : List α}
    (unique : ∀ x ∈ xs, ∀ y ∈ xs, p x = true → p y = true → x = y) (x : α) :
    xs.reverse.find? p = some x ↔ x ∈ xs ∧ p x = true := by
  constructor
  · intro found
    exact ⟨List.mem_reverse.mp (List.mem_of_find?_eq_some found), List.find?_some found⟩
  · rintro ⟨mem, sought⟩
    obtain ⟨y, found⟩ := Option.isSome_iff_exists.mp
      (List.find?_isSome.mpr ⟨x, List.mem_reverse.mpr mem, sought⟩)
    have other := List.mem_reverse.mp (List.mem_of_find?_eq_some found)
    rw [found, unique y other x mem (List.find?_some found) sought]

/-- Two dialects have no number and no name or alias in common. -/
def Unrelated (a b : Grammar) : Prop := a.kind ≠ b.kind ∧ ∀ key ∈ a.keys, key ∉ b.keys

instance : Std.Symm Unrelated where
  symm _ _ h := ⟨h.1.symm, fun key mem other => h.2 key other mem⟩

section Unrelated

variable {dialects : List Grammar} (unrelated : dialects.Pairwise Unrelated)
include unrelated

theorem lastOfKind_of_unrelated (kind : Kind) (g : Grammar) :
    lastOfKind dialects kind = some g ↔ g ∈ dialects ∧ g.kind = kind := by
  refine (find?_reverse_of_unique ?_ g).trans (by simp)
  intro a memA b memB kindA kindB
  by_contra different
  refine (unrelated.forall memA memB different).1 ?_
  rw [of_decide_eq_true kindA, of_decide_eq_true kindB]

theorem lastNamed_of_unrelated (name : Text) (g : Grammar) :
    lastNamed dialects name = some g ↔ g ∈ dialects ∧ name.lower ∈ g.keys := by
  refine (find?_reverse_of_unique ?_ g).trans (by simp)
  intro a memA b memB namedA namedB
  by_contra different
  exact (unrelated.forall memA memB different).2 _
    (of_decide_eq_true namedA) (of_decide_eq_true namedB)

theorem faithful_of_unrelated : (ofList dialects).Faithful := by
  have named : ∀ g : Grammar, g.name.lower ∈ g.keys := fun g => List.mem_cons_self
  simp only [faithful_iff, lastOfKind_of_unrelated unrelated, lastNamed_of_unrelated unrelated]
  constructor
  · rintro _ _ g h ⟨memG, rfl⟩ ⟨memH, rfl⟩ same
    -- both go by the same name, so they are one dialect
    by_contra different
    have apart := unrelated.forall memG memH (fun eq => different (eq ▸ rfl))
    exact apart.2 _ (named g) (same ▸ named h)
  · intro name
    constructor
    · rintro ⟨_, g, ⟨mem, -⟩, rfl⟩
      exact ⟨g, ⟨mem, named g⟩, rfl⟩
    · rintro ⟨g, ⟨mem, -⟩, rfl⟩
      exact ⟨g.kind, g, ⟨mem, rfl⟩, rfl⟩

end Unrelated

/-- **What a registry lists.** After any registrations the list is in order, it holds the names of
the dialects last of their number, and a name is answered by the last dialect that goes by it. So
it lists exactly what it can resolve when, and only when, no two numbers have their last dialects
under one name, and the names of those dialects are the names answered by a dialect of that name.
Registrations that share no number, name or alias are always listed so. -/
theorem registry_faithful_iff (dialects : List Grammar) :
    (ofList dialects).list.Pairwise (· ≤ ·) ∧
    (∀ name, name ∈ (ofList dialects).list ↔
      ∃ kind g, lastOfKind dialects kind = some g ∧ g.name = name) ∧
    (∀ name, (ofList dialects).get? name = lastNamed dialects name) ∧
    ((ofList dialects).Faithful ↔
      (∀ kind other g h, lastOfKind dialects kind = some g → lastOfKind dialects other = some h →
        g.name = h.name → kind = other) ∧
      ∀ name, (∃ kind g, lastOfKind dialects kind = some g ∧ g.name = name) ↔
        ∃ g, lastNamed dialects name = some g ∧ g.name = name) ∧
    (dialects.Pairwise Unrelated → (ofList dialects).Faithful) :=
  ⟨Text.pairwise_sort _, mem_list dialects, get?_ofList dialects, faithful_iff dialects,
    faithful_of_unrelated⟩

/-- The dialects of the four engines share nothing. -/
theorem registry_faithful_iff_example :
    (Engine.all.map Engine.grammar).Pairwise Unrelated ∧
    (ofList (Engine.all.map Engine.grammar)).Faithful := by
  have unrelated : (Engine.all.map Engine.grammar).Pairwise Unrelated := by
    unfold Unrelated
    decide
  exact ⟨unrelated, (registry_faithful_iff _).2.2.2.2 unrelated⟩

/-- A second dialect of the number of the first takes its place on the list, although the first
still answers to its name. -/
theorem displaced_not_listed :
    let dialects : List Grammar :=
      [Engine.mysql.grammar, { name := "other", kind := Engine.mysql.kind }]
    (ofList dialects).get? "mysql" = some Engine.mysql.grammar ∧
    (ofList dialects).list = ["other"] ∧ ¬(ofList dialects).Faithful := by
  intro dialects
  have answered : (ofList dialects).get? "mysql" = some Engine.mysql.grammar := by decide
  have listed : (ofList dialects).list = ["other"] := by decide
  refine ⟨answered, listed, fun faithful => ?_⟩
  have mem := (faithful.mem_iff "mysql").mpr ⟨_, answered, rfl⟩
  rw [listed] at mem
  exact absurd mem (by decide)

end Registry

end DatePattern
