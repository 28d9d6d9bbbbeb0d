import DatePattern.Proofs.Text.Split
import DatePattern.Text.Prose
import Mathlib.Data.List.Forall2

/-!
# Removing an indentation

The indentation that lines share is the longest text that the indentations of those not blank all
start with. `Text.dedent` looks for it by length only: it takes the first shortest indentation, and
takes that off every line that starts with it. The two are the same text as long as some line is
indented by what is shared and nothing else, and they are not when tabs and spaces are mixed so
that the lines part before the shortest indentation ends.

- `Text.sharedIndent`: the shared indentation, with `Text.prefix_sharedIndent_iff` for what it is;
- `Text.shortest_removedIndent`: the indentation that is removed is a shortest one;
- `Text.lines_dedent`: what becomes of each line;
- `Text.dedent_exact_iff`: which texts lose the shared indentation and nothing else.
-/

namespace DatePattern.Text

/-! ## What lines share -/

/-- The longest text that two texts start with. -/
def commonLead : Text → Text → Text
  | a :: as, b :: bs => if a = b then a :: commonLead as bs else []
  | _, _ => []

/-- The common lead is the greatest lower bound of two texts in the order by prefixes. -/
theorem prefix_commonLead_iff (q a b : Text) : q <+: commonLead a b ↔ q <+: a ∧ q <+: b := by
  induction a generalizing q b with
  | nil => simp +contextual [commonLead]
  | cons x as ih =>
    cases b with
    | nil => simp +contextual [commonLead]
    | cons y bs =>
      cases q with
      | nil => simp
      | cons z q =>
        rw [commonLead]
        by_cases same : x = y
        · subst same
          rw [if_pos rfl, List.cons_prefix_cons, List.cons_prefix_cons, List.cons_prefix_cons, ih]
          tauto
        · rw [if_neg same]
          constructor
          · intro h
            exact absurd (List.prefix_nil.mp h) (List.cons_ne_nil _ _)
          · rintro ⟨left, right⟩
            exact absurd ((List.cons_prefix_cons.mp left).1.symm.trans
              (List.cons_prefix_cons.mp right).1) same

theorem prefix_foldl_commonLead_iff (q first : Text) (rest : List Text) :
    q <+: rest.foldl commonLead first ↔ ∀ text ∈ first :: rest, q <+: text := by
  induction rest generalizing first with
  | nil => simp
  | cons next rest ih =>
    rw [List.foldl_cons, ih]
    simp only [List.forall_mem_cons, prefix_commonLead_iff]
    tauto

/-- The indentations of the lines that are not blank. -/
def indents (lines : List Text) : List Text :=
  (lines.filter fun line => !line.isBlank).map indentOf

theorem mem_indents {lines : List Text} {indent : Text} :
    indent ∈ indents lines ↔ ∃ line ∈ lines, line.isBlank = false ∧ line.indentOf = indent := by
  simp [indents, and_assoc]

/-- The indentation that the lines share, the blank ones not counted: the longest common prefix of
their indentations. -/
def sharedIndent (lines : List Text) : Text :=
  match indents lines with
  | [] => []
  | first :: rest => rest.foldl commonLead first

theorem prefix_sharedIndent_iff {lines : List Text} (some : indents lines ≠ []) (q : Text) :
    q <+: sharedIndent lines ↔ ∀ indent ∈ indents lines, q <+: indent := by
  rw [sharedIndent]
  cases h : indents lines with
  | nil => exact absurd h some
  | cons first rest => exact prefix_foldl_commonLead_iff q first rest

theorem sharedIndent_starts {lines : List Text} {indent : Text} (listed : indent ∈ indents lines) :
    sharedIndent lines <+: indent :=
  (prefix_sharedIndent_iff (List.ne_nil_of_mem listed) _).mp List.prefix_rfl indent listed

/-! ## The indentation that is removed -/

/-- The indentation that dedenting takes off. -/
def removedIndent (lines : List Text) : Text := (shortestIndent none lines).getD []

/-- A text of a list that none of the others is shorter than. -/
def Shortest (text : Text) (texts : List Text) : Prop :=
  text ∈ texts ∧ ∀ other ∈ texts, text.length ≤ other.length

theorem indents_of_isBlank {line : Text} (blank : line.isBlank = true) (rest : List Text) :
    indents (line :: rest) = indents rest := by
  simp [indents, blank]

theorem indents_of_not_isBlank {line : Text} (filled : line.isBlank = false) (rest : List Text) :
    indents (line :: rest) = line.indentOf :: indents rest := by
  simp [indents, filled]

theorem shortestIndent_some (found : Text) (lines : List Text) :
    ∃ indent, shortestIndent (some found) lines = some indent ∧
      Shortest indent (found :: indents lines) := by
  induction lines generalizing found with
  | nil => exact ⟨found, rfl, by simp [Shortest, indents]⟩
  | cons line rest ih =>
    rw [shortestIndent]
    cases blank : line.isBlank with
    | true =>
      rw [indents_of_isBlank blank]
      exact ih found
    | false =>
      rw [indents_of_not_isBlank blank]
      -- the shorter of the two goes on, and the other one is no shorter
      by_cases shorter : line.indentOf.length < found.length
      · obtain ⟨indent, read, listed, least⟩ := ih line.indentOf
        have first := least _ List.mem_cons_self
        refine ⟨indent, by simpa [shorter] using read, List.mem_cons_of_mem _ listed, ?_⟩
        rw [List.forall_mem_cons]
        exact ⟨by omega, least⟩
      · obtain ⟨indent, read, listed, least⟩ := ih found
        rw [List.forall_mem_cons] at least
        refine ⟨indent, by simpa [shorter] using read, ?_, ?_⟩
        · rcases List.mem_cons.mp listed with rfl | listed
          · exact List.mem_cons_self
          · exact List.mem_cons_of_mem _ (List.mem_cons_of_mem _ listed)
        · rw [List.forall_mem_cons, List.forall_mem_cons]
          exact ⟨least.1, by omega, least.2⟩

/-- **A shortest indentation is removed**, if a line is not blank. -/
theorem shortest_removedIndent {lines : List Text} (some : indents lines ≠ []) :
    Shortest (removedIndent lines) (indents lines) := by
  induction lines with
  | nil => exact absurd rfl some
  | cons line rest ih =>
    rw [removedIndent, shortestIndent]
    cases blank : line.isBlank with
    | true =>
      rw [indents_of_isBlank blank] at some ⊢
      exact ih some
    | false =>
      obtain ⟨indent, read, shortest⟩ := shortestIndent_some line.indentOf rest
      rw [indents_of_not_isBlank blank]
      simpa [read] using shortest

theorem removedIndent_of_nil {lines : List Text} (none : indents lines = []) :
    removedIndent lines = [] := by
  induction lines with
  | nil => rfl
  | cons line rest ih =>
    rw [removedIndent, shortestIndent]
    cases blank : line.isBlank with
    | true =>
      rw [indents_of_isBlank blank] at none
      exact ih none
    | false =>
      rw [indents_of_not_isBlank blank] at none
      exact absurd none (List.cons_ne_nil _ _)

theorem all_isIndent_removedIndent (lines : List Text) :
    (removedIndent lines).all isIndent = true := by
  by_cases none : indents lines = []
  · rw [removedIndent_of_nil none]
    rfl
  · obtain ⟨line, -, -, indent⟩ := mem_indents.mp (shortest_removedIndent none).1
    rw [← indent]
    exact List.all_takeWhile

/-! ## The lines that are left -/

/-- The lines of a text without the line feeds around it. -/
def bodyLines (text : Text) : List Text := (text.trimWhile (· = 0x0A)).lines

theorem append_withoutLead {line lead : Text} (starts : lead <+: line) :
    line = lead ++ line.withoutLead lead := by
  rw [withoutLead, if_pos (List.isPrefixOf_iff_prefix.mpr starts)]
  exact List.prefix_append_drop starts

theorem withoutLead_eq_self {line lead : Text} (starts : ¬ lead <+: line) :
    line.withoutLead lead = line := by
  rw [withoutLead, if_neg (mt List.isPrefixOf_iff_prefix.mp starts)]

theorem withoutLead_suffix (line lead : Text) : line.withoutLead lead <:+ line := by
  by_cases starts : lead <+: line
  · exact ⟨lead, (append_withoutLead starts).symm⟩
  · rw [withoutLead_eq_self starts]

/-- The lines of a dedented text are those of the text, with the removed indentation taken off. -/
theorem lines_dedent (text : Text) :
    text.dedent.lines =
      text.bodyLines.map fun line => line.withoutLead (removedIndent text.bodyLines) := by
  refine splitAtByte_joinWith ?_ ?_
  · rw [Ne, List.map_eq_nil_iff]
    exact splitAtByte_ne_nil _ _
  · intro part listed feed
    obtain ⟨line, within, rfl⟩ := List.mem_map.mp listed
    exact not_mem_of_mem_splitAtByte within ((withoutLead_suffix line _).subset feed)

theorem isBlank_cons {b : UInt8} (h : isIndent b = true) (rest : Text) :
    isBlank (b :: rest) = isBlank rest := by
  rw [isIndent, Bool.or_eq_true, decide_eq_true_eq, decide_eq_true_eq] at h
  rcases h with rfl | rfl <;> rfl

/-- Indenting a line does not change whether it is blank. -/
theorem isBlank_append {lead : Text} (h : lead.all isIndent = true) (rest : Text) :
    isBlank (lead ++ rest) = isBlank rest := by
  induction lead with
  | nil => rfl
  | cons b lead ih =>
    rw [List.all_cons, Bool.and_eq_true] at h
    rw [List.cons_append, isBlank_cons h.1, ih h.2]

/-- A line loses spaces and tabs only, and it stays blank or not. -/
theorem exists_lead (lines : List Text) (line : Text) :
    let left := line.withoutLead (removedIndent lines)
    left.isBlank = line.isBlank ∧ ∃ lead, lead.all isIndent = true ∧ line = lead ++ left := by
  intro left
  by_cases starts : removedIndent lines <+: line
  · have whole : line = removedIndent lines ++ left := append_withoutLead starts
    have indent := all_isIndent_removedIndent lines
    refine ⟨?_, removedIndent lines, indent, whole⟩
    rw [← isBlank_append indent left, ← whole]
  · have whole : left = line := withoutLead_eq_self starts
    rw [whole]
    exact ⟨rfl, [], rfl, rfl⟩

/-! ## Exact dedenting -/

/-- A text loses the shared indentation and nothing else: each line that is not blank in the end
is one of the text's, in its place, without what the lines share. -/
def DedentsExactly (text : Text) : Prop :=
  List.Forall₂ (fun line left => left.isBlank = false → line = sharedIndent text.bodyLines ++ left)
    text.bodyLines text.dedent.lines

theorem forall₂_lines_dedent {R : Text → Text → Prop} (text : Text) :
    List.Forall₂ R text.bodyLines text.dedent.lines ↔
      ∀ line ∈ text.bodyLines, R line (line.withoutLead (removedIndent text.bodyLines)) := by
  rw [lines_dedent, List.forall₂_map_right_iff, List.forall₂_same]

theorem removedIndent_eq_iff (lines : List Text) :
    removedIndent lines = sharedIndent lines ↔
      (indents lines ≠ [] → sharedIndent lines ∈ indents lines) := by
  constructor
  · intro same some
    rw [← same]
    exact (shortest_removedIndent some).1
  · intro shared
    by_cases none : indents lines = []
    · rw [removedIndent_of_nil none, sharedIndent, none]
    · -- the removed one starts with what is shared, and is no longer than that
      obtain ⟨listed, least⟩ := shortest_removedIndent none
      have starts := sharedIndent_starts listed
      exact (starts.eq_of_length (Nat.le_antisymm starts.length_le (least _ (shared none)))).symm

theorem dedentsExactly_iff (text : Text) :
    DedentsExactly text ↔ removedIndent text.bodyLines = sharedIndent text.bodyLines := by
  rw [DedentsExactly, forall₂_lines_dedent]
  constructor
  · intro each
    by_cases none : indents text.bodyLines = []
    · exact (removedIndent_eq_iff _).mpr fun some => absurd none some
    · -- the line whose indentation is removed loses all of it
      obtain ⟨listed, -⟩ := shortest_removedIndent none
      obtain ⟨line, within, filled, indent⟩ := mem_indents.mp listed
      have starts : removedIndent text.bodyLines <+: line := by
        rw [← indent]
        exact List.takeWhile_prefix isIndent
      have left := (exists_lead text.bodyLines line).1.trans filled
      have whole := append_withoutLead starts
      have same := (each line within left).symm.trans whole
      exact (List.append_cancel_right same).symm
  · intro same line within left
    have filled := (exists_lead text.bodyLines line).1.symm.trans left
    have listed : line.indentOf ∈ indents text.bodyLines :=
      mem_indents.mpr ⟨line, within, filled, rfl⟩
    have starts := (sharedIndent_starts listed).trans (List.takeWhile_prefix isIndent)
    rw [← same] at starts ⊢
    exact append_withoutLead starts

/-- One byte alone does not make the lines part: the shortest of its runs starts the others. -/
theorem removedIndent_eq_of_uniform {lines : List Text} {b : UInt8}
    (uniform : ∀ indent ∈ indents lines, ∀ c ∈ indent, c = b) :
    removedIndent lines = sharedIndent lines := by
  rw [removedIndent_eq_iff]
  intro some
  obtain ⟨listed, least⟩ := shortest_removedIndent some
  have shared : removedIndent lines <+: sharedIndent lines := by
    rw [prefix_sharedIndent_iff some]
    intro indent within
    rw [List.eq_replicate_of_mem (uniform _ listed), List.eq_replicate_of_mem (uniform _ within)]
    rw [List.prefix_replicate_iff]
    simpa using least _ within
  have same := shared.eq_of_length_le (sharedIndent_starts listed).length_le
  rw [← same]
  exact listed

/-- **Which texts are dedented exactly.** The lines of a dedented text are those of the text, one
for one, each without some spaces and tabs that stood in front of it, and blank if it was. They
have lost the shared indentation and nothing else exactly when one of those that are not blank had
no more indentation than they all share, or when all are blank. That is the case whenever the text
is indented by spaces alone or by tabs alone. -/
theorem dedent_exact_iff (text : Text) :
    List.Forall₂ (fun line left => left.isBlank = line.isBlank ∧
        ∃ lead, lead.all isIndent = true ∧ line = lead ++ left)
      text.bodyLines text.dedent.lines ∧
    (DedentsExactly text ↔
      (indents text.bodyLines ≠ [] →
        sharedIndent text.bodyLines ∈ indents text.bodyLines)) ∧
    (∀ b, (∀ indent ∈ indents text.bodyLines, ∀ c ∈ indent, c = b) → DedentsExactly text) := by
  refine ⟨?_, ?_, ?_⟩
  · rw [forall₂_lines_dedent]
    intro line _
    exact exists_lead text.bodyLines line
  · rw [dedentsExactly_iff, removedIndent_eq_iff]
  · intro b uniform
    rw [dedentsExactly_iff]
    exact removedIndent_eq_of_uniform uniform

/-- A tab in front of one line and two spaces in front of the next share nothing, but the tab is
removed. -/
theorem unshared_tab_removed :
    let text : Text := "\ta\n  b"
    sharedIndent text.bodyLines = [] ∧ text.dedent = "a\n  b" ∧ ¬ DedentsExactly text := by
  intro text
  refine ⟨by decide, by decide, ?_⟩
  rw [dedentsExactly_iff]
  decide

end DatePattern.Text
