import DatePattern.Cli.Run
import DatePattern.Proofs.Batch.Written
import DatePattern.Proofs.Plan.Bytes
import DatePattern.Proofs.Plan.Each

/-!
# A batch is all or nothing

A batch goes through its formats and, for each, through the dialects, and leaves the dialects at the
first failure. That each rejected format is reported once rests on this: a format that one dialect
rejects is rejected by the first one.

- `Batch.Entry.Of`: the entry that a named format should have, in terms of `compile`;
- `Batch.rejection?`: what should be reported of a named format, in terms of the check alone;
- `Batch.compileEntry_of_accepted`, `Batch.compileEntry_of_rejected`: one named format has its
  entry or its report;
- `Batch.compileAll_of_accepted`, `Batch.compileAll_of_rejected`: so has every list of them, by
  recursion on the list;
- `Batch.plain_of`: the SQL of such entries does not end with a line feed, so it is shown as it is;
- `batch_all_or_nothing`: what the command writes, and what it fails with.
-/

namespace DatePattern

namespace Batch

/-- An entry shows a named format with a result for each dialect, in order. -/
structure Entry.Of (dialects : List Grammar) (default : Text) (named : NamedFormat)
    (entry : Entry) : Prop where
  name : entry.name = named.name
  format : entry.format = named.format
  column : entry.column = if named.column = [] then default else named.column
  results : List.Forall₂ (DialectSql.Of (.column entry.column) named.format) dialects entry.results

/-- What is reported of a named format: its name and what the check of its format says. -/
def rejection? (format : NamedFormat) : Option Rejection :=
  (failure? (Pattern.validate format.format)).map fun e => ⟨format.name, .pattern e⟩

/-! ## One format -/

section

variable {dialects : List Grammar} {format : NamedFormat}

theorem columnOr_eq (format : NamedFormat) (default : Text) :
    format.columnOr default = if format.column = [] then default else format.column := by
  rw [NamedFormat.columnOr]
  exact if_congr List.isEmpty_iff rfl rfl

theorem compileEntry_of_accepted (valid : ∀ g ∈ dialects, g.kind.isValid = true)
    (accepted : Pattern.validate format.format = .ok ()) (default : Text) :
    ∃ entry, compileEntry dialects default format = .ok entry ∧
      entry.Of dialects default format := by
  obtain ⟨results, compiled, of⟩ :=
    compileEach_of_accepted valid accepted (.column (format.columnOr default))
  refine ⟨⟨format.name, format.format, format.columnOr default, results⟩, ?_, ?_⟩
  · rw [compileEntry, compiled]
  · exact ⟨rfl, rfl, columnOr_eq format default, of⟩

theorem compileEntry_of_rejected (given : dialects ≠ [])
    (valid : ∀ g ∈ dialects, g.kind.isValid = true) {e : PatternError}
    (rejected : Pattern.validate format.format = .error e) (default : Text) :
    compileEntry dialects default format = .error ⟨format.name, .pattern e⟩ := by
  obtain ⟨name, failed⟩ :=
    compileEach_of_rejected given valid rejected (.column (format.columnOr default))
  rw [compileEntry, failed]

end

/-! ## Several formats -/

section

variable {dialects : List Grammar} {formats : List NamedFormat}

/-- The reports of a batch are those of the check, one for each rejected format and in order,
whatever the dialects. -/
theorem rejections_eq (given : dialects ≠ []) (valid : ∀ g ∈ dialects, g.kind.isValid = true)
    (default : Text) (formats : List NamedFormat) :
    rejections dialects default formats = formats.filterMap rejection? := by
  refine List.filterMap_congr fun format _ => ?_
  rw [rejection?]
  cases checked : Pattern.validate format.format with
  | ok u =>
    obtain ⟨entry, compiled, -⟩ := compileEntry_of_accepted valid checked default
    rw [compiled]
    rfl
  | error e =>
    rw [compileEntry_of_rejected given valid checked]
    rfl

/-- When every format is accepted, each has its entry, in order. -/
theorem accepted_of_accepted (valid : ∀ g ∈ dialects, g.kind.isValid = true)
    (checked : ∀ format ∈ formats, Pattern.validate format.format = .ok ()) (default : Text) :
    List.Forall₂ (Entry.Of dialects default) formats (accepted dialects default formats) := by
  induction formats with
  | nil => exact .nil
  | cons format rest ih =>
    obtain ⟨checkedFirst, checkedRest⟩ := List.forall_mem_cons.mp checked
    obtain ⟨entry, compiled, of⟩ := compileEntry_of_accepted valid checkedFirst default
    have first : accepted dialects default (format :: rest)
        = entry :: accepted dialects default rest := by
      rw [accepted, List.filterMap_cons, compiled]
      rfl
    rw [first]
    exact .cons of (ih checkedRest)

theorem compileAll_of_accepted (given : dialects ≠ [])
    (valid : ∀ g ∈ dialects, g.kind.isValid = true)
    (checked : ∀ format ∈ formats, Pattern.validate format.format = .ok ()) (default : Text) :
    ∃ entries, compileAll dialects default formats = .ok entries ∧
      List.Forall₂ (Entry.Of dialects default) formats entries := by
  have none : rejections dialects default formats = [] := by
    rw [rejections_eq given valid, List.filterMap_eq_nil_iff]
    intro format mem
    rw [rejection?, checked format mem]
    rfl
  refine ⟨accepted dialects default formats, ?_, accepted_of_accepted valid checked default⟩
  rw [compileAll, none]

theorem compileAll_of_rejected (given : dialects ≠ [])
    (valid : ∀ g ∈ dialects, g.kind.isValid = true) {format : NamedFormat} (mem : format ∈ formats)
    (rejected : Pattern.validate format.format ≠ .ok ()) (default : Text) :
    compileAll dialects default formats = .error (formats.filterMap rejection?) := by
  -- the rejected format has a report, so the reports are not empty
  have some : formats.filterMap rejection? ≠ [] := by
    rw [Ne, List.filterMap_eq_nil_iff]
    intro none
    cases checked : Pattern.validate format.format with
    | ok u => exact rejected checked
    | error e =>
      have silent := none format mem
      rw [rejection?, checked] at silent
      cases silent
  rw [compileAll, rejections_eq given valid]
  split
  · next none => exact absurd none some
  · rfl

theorem exists_of_forall₂ {α β : Type} {R : α → β → Prop} {xs : List α} {ys : List β}
    (h : List.Forall₂ R xs ys) {y : β} (mem : y ∈ ys) : ∃ x ∈ xs, R x y := by
  induction h with
  | nil => exact absurd mem List.not_mem_nil
  | cons first _ ih =>
    rcases List.mem_cons.mp mem with rfl | mem
    · exact ⟨_, List.mem_cons_self, first⟩
    · obtain ⟨x, listed, related⟩ := ih mem
      exact ⟨x, List.mem_cons_of_mem _ listed, related⟩

theorem plain_of (valid : ∀ g ∈ dialects, g.kind.isValid = true) {default : Text}
    {entries : List Entry} (of : List.Forall₂ (Entry.Of dialects default) formats entries) :
    ∀ entry ∈ entries, ∀ result ∈ entry.results, result.sql.getLast? ≠ some 0x0A := by
  intro entry listed result own
  obtain ⟨format, -, shows⟩ := exists_of_forall₂ of listed
  obtain ⟨g, mem, -, compiled⟩ := exists_of_forall₂ shows.results own
  exact getLast?_of_compile (valid g mem) compiled

theorem messages_filterMap (formats : List NamedFormat) :
    Rejection.messages (formats.filterMap rejection?) =
      Text.joinWith "\n" (formats.filterMap fun format =>
        (failure? (Pattern.validate format.format)).map fun e =>
          format.name ++ ": " ++ e.message) := by
  rw [Rejection.messages, List.map_filterMap]
  congr 1
  refine List.filterMap_congr fun format _ => ?_
  rw [rejection?, Option.map_map]
  rfl

end

end Batch

open Batch in
/-- **A batch is all or nothing.** Take any named formats, dialects of engines, at least one, and a
default column. When the check accepts every format, the batch writes one entry for each of them, in
order, and an entry has one result for each dialect, in order: what compiling the format over the
entry's column gives, or over the default one when it names none. The text shows these entries: JSON
is read as them, markdown is their page and text a box with a row for each result. Otherwise nothing
is written, and the failure joins one report for each rejected format, in order: its name and what
the check says of it. This is what the command does with the formats of its file. -/
theorem batch_all_or_nothing (job : Cli.Job) (file : Text) (dialects : List Grammar)
    (given : dialects ≠ []) (valid : ∀ g ∈ dialects, g.kind.isValid = true)
    (formats : List NamedFormat) :
    let reply := job.compileFormats file dialects formats
    ((∀ format ∈ formats, Pattern.validate format.format = .ok ()) →
      ∃ entries, reply.failure? = none ∧
        reply.out = Compiled.render ⟨file, entries⟩ job.shape ∧
        Compiled.Shown ⟨file, entries⟩ reply.out job.shape ∧
        List.Forall₂ (Entry.Of dialects job.column) formats entries) ∧
    (∀ format ∈ formats, Pattern.validate format.format ≠ .ok () →
      reply.out = [] ∧
      ∃ failure, reply.failure? = some failure ∧
        failure = .batch (formats.filterMap rejection?) ∧
        failure.message = Text.joinWith "\n" (formats.filterMap fun format =>
          (failure? (Pattern.validate format.format)).map fun e =>
            format.name ++ ": " ++ e.message)) ∧
    ∀ path, (if path = [] then job.config.formatsFile else path) = file →
      job.dialects = .ok dialects →
      loadFormats job.surroundings.directory file = .ok formats → job.batch path = reply := by
  intro reply
  refine ⟨?_, ?_, ?_⟩
  · intro checked
    obtain ⟨entries, compiled, of⟩ :=
      compileAll_of_accepted given valid checked job.column
    have written : reply.failure? = none ∧
        reply.out = Compiled.render ⟨file, entries⟩ job.shape := by
      show (job.compileFormats file dialects formats).failure? = none ∧
        (job.compileFormats file dialects formats).out = _
      rw [Cli.Job.compileFormats, compiled]
      exact ⟨rfl, rfl⟩
    refine ⟨entries, written.1, written.2, ?_, of⟩
    rw [written.2]
    exact shown_render (plain_of valid of) job.shape
  · intro format mem rejected
    have failed : reply = .failed (.batch (formats.filterMap rejection?)) := by
      show job.compileFormats file dialects formats = _
      rw [Cli.Job.compileFormats, compileAll_of_rejected given valid mem rejected]
    rw [failed]
    exact ⟨rfl, _, rfl, rfl, messages_filterMap formats⟩
  · rintro path rfl selected loaded
    have named : (if path.isEmpty = true then job.config.formatsFile else path)
        = if path = [] then job.config.formatsFile else path := if_congr List.isEmpty_iff rfl rfl
    rw [Cli.Job.batch, named, selected, loaded]

/-- Two of four formats are rejected, and reported by the check alone; another one by itself is
written with its SQL. -/
theorem batch_all_or_nothing_example :
    let dialects := Engine.all.map Engine.grammar
    let job : Cli.Job := ⟨{}, Config.default, {}⟩
    let good : List Batch.NamedFormat := [⟨"day", "Y-m-d", "at"⟩, ⟨"stamp", "U", []⟩]
    let mixed : List Batch.NamedFormat := [⟨"zone", "H:i e", []⟩] ++ good ++ [⟨"lost", "c", "at"⟩]
    dialects ≠ [] ∧ (∀ g ∈ dialects, g.kind.isValid = true) ∧
      (job.compileFormats "all.yaml" dialects mixed).out = [] ∧
      (job.compileFormats "all.yaml" dialects mixed).failure? = some (.batch
        [⟨"zone", .pattern (.unsupported 'e' 4)⟩, ⟨"lost", .pattern (.unsupported 'c' 0)⟩]) ∧
      (job.compileFormats "all.yaml" [Engine.sqlite.grammar] [⟨"day", "Y-m-d", "at"⟩]).out =
        "# Formats: all.yaml\n\n## day\n\n- **Format**: `Y-m-d`\n- **Column**: at\n" ++
          "\n### sqlite\n\n```sql\nstrftime('%Y-%m-%d', \"at\")\n```\n" := by
  intro dialects job good mixed
  have given : dialects ≠ [] := by decide
  have valid : ∀ g ∈ dialects, g.kind.isValid = true := by decide
  have reports : mixed.filterMap Batch.rejection?
      = [⟨"zone", .pattern (.unsupported 'e' 4)⟩, ⟨"lost", .pattern (.unsupported 'c' 0)⟩] := by
    decide
  obtain ⟨-, rejected, -⟩ := batch_all_or_nothing job "all.yaml" dialects given valid mixed
  obtain ⟨accepted, -, -⟩ := batch_all_or_nothing job "all.yaml" [Engine.sqlite.grammar]
    (by decide) (by decide) [⟨"day", "Y-m-d", "at"⟩]
  obtain ⟨silent, failure, failed, rfl, -⟩ :=
    rejected ⟨"zone", "H:i e", []⟩ List.mem_cons_self (by decide)
  rw [reports] at failed
  refine ⟨given, valid, silent, failed, ?_⟩
  obtain ⟨entries, -, -, shown, of⟩ := accepted (by decide)
  obtain ⟨⟨_, _, _, _⟩, rest, ⟨rfl, rfl, rfl, results⟩, ends, rfl⟩ :=
    List.forall₂_cons_left_iff.mp of
  obtain rfl := List.forall₂_nil_left_iff.mp ends
  obtain ⟨⟨_, sql⟩, rest, ⟨rfl, compiled⟩, ends, rfl⟩ := List.forall₂_cons_left_iff.mp results
  obtain rfl := List.forall₂_nil_left_iff.mp ends
  obtain rfl : "strftime('%Y-%m-%d', \"at\")" = sql := Except.ok.inj compiled
  exact shown

end DatePattern
