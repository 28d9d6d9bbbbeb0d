import DatePattern.Config.Environment
import DatePattern.Proofs.Text.Split
import Mathlib.Data.List.TakeWhile

/-!
# Expanding references

Expansion goes through a text once: a reference to a variable with a value is replaced, everything
else stays. Doing so again changes nothing, as long as no value holds a dollar sign or an opening
brace. Values may hold closing braces, names may hold dollar signs and opening braces, and text that
is kept may end where a value begins; so what has to be shown is that no reference comes into being
at such a seam.

- `Environment.Refers`: the names that a text refers to, by a rule without the environment;
- `Environment.reading_induction`: the ways a text can start, with `expand_written` and
  `expand_byte` for what expansion does there;
- `Environment.startsReference_of_expand`: no reference comes into being;
- `Environment.expansion_stable`: a second expansion changes nothing, and the first one only when a
  variable that is referred to has a value.
-/

namespace DatePattern.Environment

/-! ## References -/

/-- What a reference can name. -/
def IsName (name : Text) : Prop := name ≠ [] ∧ 0x7D ∉ name

instance (name : Text) : Decidable (IsName name) := inferInstanceAs (Decidable (_ ∧ _))

/-- A reference as it is written. -/
def written (name : Text) : Text := 0x24 :: 0x7B :: (name ++ [0x7D])

/-- A text starts with a reference. -/
def StartsReference (text : Text) : Prop :=
  ∃ name after, IsName name ∧ text = written name ++ after

/-- The names that a text refers to. From the left, a reference is taken wherever one starts, and
any other byte is passed over. -/
inductive Refers : Text → List Text → Prop
  | nil : Refers [] []
  | reference {name rest : Text} {names : List Text} :
    IsName name → Refers rest names → Refers (written name ++ rest) (name :: names)
  | byte {b : UInt8} {rest : Text} {names : List Text} :
    ¬ StartsReference (b :: rest) → Refers rest names → Refers (b :: rest) names

theorem written_append (name rest : Text) :
    written name ++ rest = 0x24 :: 0x7B :: (name ++ 0x7D :: rest) := by
  simp [written]

/-- A reference ends at its first closing brace, so it can be read in one way only. -/
theorem written_append_inj {name other rest more : Text} (hn : IsName name) (ho : IsName other)
    (same : written name ++ rest = written other ++ more) : name = other ∧ rest = more := by
  rw [written_append, written_append] at same
  injection same with _ same
  injection same with _ same
  have cut := Text.cut?_append_cons hn.2 rest
  rw [same, Text.cut?_append_cons ho.2] at cut
  injection cut with both
  exact ⟨(congrArg Prod.fst both).symm, (congrArg Prod.snd both).symm⟩

theorem startsReference_written {name : Text} (h : IsName name) (rest : Text) :
    StartsReference (written name ++ rest) := ⟨name, rest, h, rfl⟩

theorem not_startsReference {b : UInt8} (h : b ≠ 0x24) (rest : Text) :
    ¬ StartsReference (b :: rest) := by
  rintro ⟨name, after, -, same⟩
  rw [written_append] at same
  injection same with first
  exact h first

/-- The ways a text can start, for expansion. -/
@[elab_as_elim]
theorem reading_induction {motive : Text → Prop} (nil : motive [])
    (reference : ∀ name rest, IsName name → motive rest → motive (written name ++ rest))
    (byte : ∀ b rest, ¬ StartsReference (b :: rest) → motive rest → motive (b :: rest))
    (text : Text) : motive text := by
  -- a reference takes several bytes, so the induction is on the length
  induction length : text.length using Nat.strong_induction_on generalizing text with
  | _ n ih =>
    cases text with
    | nil => exact nil
    | cons b rest =>
      rw [List.length_cons] at length
      by_cases starts : StartsReference (b :: rest)
      · obtain ⟨name, after, isName, same⟩ := starts
        have shorter : after.length < n := by
          have lengths := congrArg List.length same
          simp only [written_append, List.length_cons, List.length_append] at lengths
          omega
        rw [same]
        exact reference name after isName (ih _ shorter after rfl)
      · exact byte b rest starts (ih rest.length (by omega) rest rfl)

/-- Every text refers to one list of names. -/
theorem exists_refers (text : Text) : ∃ names, ∀ others, Refers text others ↔ others = names := by
  induction text using reading_induction with
  | nil =>
    refine ⟨[], fun others => ⟨fun h => ?_, ?_⟩⟩
    · cases h with
      | nil => rfl
    · rintro rfl
      exact .nil
  | reference name rest isName ih =>
    obtain ⟨names, only⟩ := ih
    refine ⟨name :: names, fun others => ⟨fun h => ?_, ?_⟩⟩
    · generalize whole : written name ++ rest = text at h
      cases h with
      | nil => simp [written] at whole
      | reference isOther more =>
        obtain ⟨rfl, rfl⟩ := written_append_inj isName isOther whole
        rw [(only _).mp more]
      | byte starts more => exact absurd (whole ▸ startsReference_written isName rest) starts
    · rintro rfl
      exact .reference isName ((only names).mpr rfl)
  | byte b rest starts ih =>
    obtain ⟨names, only⟩ := ih
    refine ⟨names, fun others => ⟨fun h => ?_, ?_⟩⟩
    · generalize whole : b :: rest = text at h
      cases h with
      | nil => cases whole
      | reference isName more => exact absurd (whole ▸ startsReference_written isName _) starts
      | byte _ more =>
        cases whole
        exact (only _).mp more
    · rintro rfl
      exact .byte starts ((only others).mpr rfl)

/-! ## Expansion along a text -/

variable (env : Environment)

theorem expand_written {name : Text} (h : IsName name) (rest : Text) :
    env.expand (written name ++ rest) = env.reference name ++ env.expand rest := by
  obtain ⟨taken, left⟩ : (name ++ 0x7D :: rest).takeWhile isNameByte = name ∧
      (name ++ 0x7D :: rest).dropWhile isNameByte = 0x7D :: rest :=
    Text.span_until h.2 (0x7D :: rest) (by simp)
  rw [written_append, expand, taken]
  split
  · next b after found =>
    rw [left] at found
    cases found
    rw [if_neg (by simpa using h.1)]
  · next none =>
    rw [left] at none
    cases none

theorem dropWhile_of_not_mem {rest : Text} (h : 0x7D ∉ rest) : rest.dropWhile isNameByte = [] := by
  refine List.dropWhile_eq_nil_iff.mpr fun b mem => ?_
  rw [isNameByte, bne_iff_ne]
  rintro rfl
  exact h mem

/-- Without a closing brace there is no reference. -/
theorem expand_of_not_mem {text : Text} (h : 0x7D ∉ text) : env.expand text = text := by
  fun_induction expand env text with
  | case1 => rfl
  | case2 rest _ _ _ found =>
    rw [dropWhile_of_not_mem (by simp_all)] at found
    cases found
  | case3 rest _ _ _ found =>
    rw [dropWhile_of_not_mem (by simp_all)] at found
    cases found
  | case4 => rfl
  | case5 b rest other ih => rw [ih (List.not_mem_of_not_mem_cons h)]

/-- An opening without a name is passed over. -/
theorem expand_nameless (rest : Text) :
    env.expand (0x24 :: 0x7B :: 0x7D :: rest) = 0x24 :: 0x7B :: env.expand (0x7D :: rest) := by
  rw [expand]
  split
  · next b after found => rw [if_pos (by simp [isNameByte])]
  · next none => simp [isNameByte] at none

theorem expand_other {b : UInt8} {rest : Text}
    (h : ∀ more, b = 0x24 → rest = 0x7B :: more → False) :
    env.expand (b :: rest) = b :: env.expand rest := by
  rw [expand]
  exact h

/-- Where no reference starts, a byte stays. -/
theorem expand_byte {b : UInt8} {rest : Text} (h : ¬ StartsReference (b :: rest)) :
    env.expand (b :: rest) = b :: env.expand rest := by
  by_cases opens : b = 0x24 ∧ ∃ more, rest = 0x7B :: more
  · obtain ⟨rfl, more, rfl⟩ := opens
    have brace : env.expand (0x7B :: more) = 0x7B :: env.expand more :=
      expand_other env fun _ same => absurd same (by decide)
    by_cases closes : 0x7D ∈ more
    · -- a brace that closes has no name before it, or a reference would start
      obtain ⟨name, after, rfl, free⟩ := List.eq_append_cons_of_mem closes
      cases name with
      | nil => rw [List.nil_append, expand_nameless, ← List.nil_append (0x7D :: after), brace]
      | cons c name =>
        refine absurd ⟨c :: name, after, ⟨List.cons_ne_nil _ _, free⟩, ?_⟩ h
        exact (written_append ..).symm
    · rw [brace, expand_of_not_mem env closes]
      exact expand_of_not_mem env (by simp [closes])
  · exact expand_other env fun more dollar brace => opens ⟨dollar, more, brace⟩

/-! ## No reference comes into being -/

variable {env} (plain : ∀ entry ∈ env, 0x24 ∉ entry.2 ∧ 0x7B ∉ entry.2)

include plain in
theorem value_plain (name : Text) : 0x24 ∉ env.value name ∧ 0x7B ∉ env.value name := by
  rw [value]
  cases found : env.lookup name with
  | none => simp
  | some value =>
    obtain ⟨before, after, split, -⟩ := List.lookup_eq_some_iff.mp found
    exact plain (name, value) (by simp [split])

theorem reference_of_empty {name : Text} (h : env.value name = []) :
    env.reference name = written name := by
  rw [reference, h]
  rfl

theorem reference_of_ne {name : Text} (h : env.value name ≠ []) :
    env.reference name = env.value name := by
  rw [reference, if_neg (by simpa using h)]

include plain in
/-- What a reference stands for never starts with an opening brace. -/
theorem head?_reference (name rest : Text) : (env.reference name ++ rest).head? ≠ some 0x7B := by
  by_cases empty : env.value name = []
  · rw [reference_of_empty empty, written_append]
    simp
  · rw [reference_of_ne empty]
    obtain ⟨b, value, found⟩ := List.exists_cons_of_ne_nil empty
    have free := (value_plain plain name).2
    rw [found] at free ⊢
    simp only [List.cons_append, List.head?_cons, ne_eq, Option.some.injEq]
    rintro rfl
    exact free List.mem_cons_self

include plain in
/-- **No reference comes into being**: one that starts with a byte that was kept, started there
before. -/
theorem startsReference_of_expand {b : UInt8} {rest : Text}
    (h : StartsReference (b :: env.expand rest)) : StartsReference (b :: rest) := by
  obtain ⟨name, after, isName, same⟩ := h
  rw [written_append] at same
  injection same with dollar same
  subst dollar
  induction rest using reading_induction with
  | nil => simp [expand] at same
  | reference other more isOther =>
    rw [expand_written env isOther] at same
    exact absurd (by rw [same]; rfl) (head?_reference plain other (env.expand more))
  | byte c more starts =>
    rw [expand_byte env starts] at same
    injection same with brace same
    subst brace
    -- the brace that closes it was there before, and so was something in front of that brace
    have closes : 0x7D ∈ more := by
      by_contra free
      rw [expand_of_not_mem env free] at same
      exact free (by simp [same])
    obtain ⟨front, behind, rfl, free⟩ := List.eq_append_cons_of_mem closes
    refine ⟨front, behind, ⟨?_, free⟩, (written_append ..).symm⟩
    rintro rfl
    rw [List.nil_append, expand_byte env (not_startsReference (by decide) behind)] at same
    obtain ⟨c, name, rfl⟩ := List.exists_cons_of_ne_nil isName.1
    injection same with first
    exact isName.2 (first ▸ List.mem_cons_self)

/-! ## Expanding twice -/

/-- Text without a dollar sign is passed over. -/
theorem expand_append {front : Text} (free : 0x24 ∉ front) (rest : Text) :
    env.expand (front ++ rest) = front ++ env.expand rest := by
  induction front with
  | nil => rfl
  | cons b front ih =>
    rw [List.mem_cons, not_or] at free
    rw [List.cons_append, expand_byte env (not_startsReference (Ne.symm free.1) _), ih free.2]
    rfl

include plain in
theorem expand_expand (text : Text) : env.expand (env.expand text) = env.expand text := by
  induction text using reading_induction with
  | nil => simp [expand]
  | reference name rest isName ih =>
    rw [expand_written env isName]
    by_cases empty : env.value name = []
    · rw [reference_of_empty empty, expand_written env isName, reference_of_empty empty, ih]
    · rw [reference_of_ne empty, expand_append (value_plain plain name).1, ih]
  | byte b rest starts ih =>
    rw [expand_byte env starts, expand_byte env (mt (startsReference_of_expand plain) starts), ih]

/-! ## Expanding nothing -/

theorem expand_eq_self {text : Text} {names : List Text} (refers : Refers text names)
    (unset : ∀ name ∈ names, env.value name = []) : env.expand text = text := by
  induction refers with
  | nil => simp [expand]
  | reference isName _ ih =>
    obtain ⟨first, others⟩ := List.forall_mem_cons.mp unset
    rw [expand_written env isName, reference_of_empty first, ih others]
  | byte starts _ ih => rw [expand_byte env starts, ih unset]

include plain in
/-- A text that expansion leaves as it is refers to no variable with a value. -/
theorem unset_of_expand_eq {text : Text} {names : List Text} (refers : Refers text names)
    (same : env.expand text = text) : ∀ name ∈ names, env.value name = [] := by
  induction refers with
  | nil => simp
  | @reference name rest names isName _ ih =>
    rw [expand_written env isName] at same
    have empty : env.value name = [] := by
      -- a value would stand in the place of the dollar sign
      by_contra set
      obtain ⟨b, value, found⟩ := List.exists_cons_of_ne_nil set
      have free := (value_plain plain name).1
      rw [reference_of_ne set, found, written_append] at same
      injection same with first
      exact free (by rw [found, first]; exact List.mem_cons_self)
    rw [reference_of_empty empty] at same
    exact List.forall_mem_cons.mpr ⟨empty, ih (List.append_cancel_left same)⟩
  | byte starts _ ih =>
    rw [expand_byte env starts] at same
    injection same with _ same
    exact ih same

/-- **Expansion is stable.** A text refers to one list of names. When all of these variables are
unset or empty, expanding leaves the text as it is. When no value holds a dollar sign or an opening
brace, expanding a second time changes nothing, and the first time only if one of the variables has
a value. -/
theorem expansion_stable (env : Environment) (text : Text) :
    ∃ names, (∀ others, Refers text others ↔ others = names) ∧
      ((∀ name ∈ names, env.value name = []) → env.expand text = text) ∧
      ((∀ entry ∈ env, 0x24 ∉ entry.2 ∧ 0x7B ∉ entry.2) →
        env.expand (env.expand text) = env.expand text ∧
        (env.expand text = text → ∀ name ∈ names, env.value name = [])) := by
  obtain ⟨names, only⟩ := exists_refers text
  have refers : Refers text names := (only names).mpr rfl
  refine ⟨names, only, expand_eq_self refers, fun plain => ⟨expand_expand plain text, ?_⟩⟩
  exact unset_of_expand_eq plain refers

/-- A value that starts with a closing brace, between a dollar sign and an opening brace that stay;
and references to a variable that is unset and to one that is empty. -/
theorem expansion_stable_seams :
    let env : Environment := [("A", "\x7dx"), ("E", [])]
    let seams : Text := "$$\x7bA\x7d\x7bN\x7d"
    let unset : Text := "$\x7bU\x7d$\x7bE\x7d"
    (∀ entry ∈ env, 0x24 ∉ entry.2 ∧ 0x7B ∉ entry.2) ∧
    env.expand seams = "$\x7dx\x7bN\x7d" ∧
    env.expand (env.expand seams) = env.expand seams ∧
    Refers unset ["U", "E"] ∧ (∀ name ∈ (["U", "E"] : List Text), env.value name = []) ∧
    env.expand unset = unset := by
  intro env seams unset
  have plain : ∀ entry ∈ env, 0x24 ∉ entry.2 ∧ 0x7B ∉ entry.2 := by decide
  have expanded : env.expand seams = "$\x7dx\x7bN\x7d" := by
    have braces : 0x24 ∉ ("\x7bN\x7d" : Text) := by decide
    show env.expand (0x24 :: (written "A" ++ (("\x7bN\x7d" : Text) ++ []))) = _
    rw [expand_other env (by simp [written]), expand_written env (by decide),
      expand_append braces, expand]
    decide
  have first : IsName "U" := by decide
  have second : IsName "E" := by decide
  have refers : Refers unset ["U", "E"] := .reference first (.reference second .nil)
  have empty : ∀ name ∈ (["U", "E"] : List Text), env.value name = [] := by decide
  obtain ⟨_, _, _, twice⟩ := expansion_stable env seams
  obtain ⟨names, only, once, -⟩ := expansion_stable env unset
  have same := (only _).mp refers
  exact ⟨plain, expanded, (twice plain).1, refers, empty, once (same ▸ empty)⟩

end DatePattern.Environment
