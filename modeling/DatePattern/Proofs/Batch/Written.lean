import DatePattern.Batch.Compile
import DatePattern.Proofs.Output.Json
import DatePattern.Proofs.Output.Table

/-!
# What a batch writes

A compiled batch says the same in each shape: every entry in order, and in an entry every result in
order, with its dialect and its SQL.

- `Batch.Compiled.read?`: the batch of a JSON document;
- `Batch.pageOf`: the page in markdown, with the SQL as it is;
- `Batch.Compiled.Shown`: what a text has to be in each shape to show a batch;
- `Batch.shown_render`: a rendered batch is shown, as long as no SQL ends with a line feed.
-/

namespace DatePattern.Batch

open Output (Json)

/-! ## JSON -/

/-- A result with its texts repaired. -/
def repairedResult (result : DialectSql) : DialectSql :=
  ⟨result.dialect.repaired, result.sql.repaired⟩

/-- An entry with its texts repaired. -/
def Entry.repaired (entry : Entry) : Entry :=
  ⟨entry.name.repaired, entry.format.repaired, entry.column.repaired,
    entry.results.map repairedResult⟩

/-- A batch with its texts repaired. -/
def Compiled.repaired (compiled : Compiled) : Compiled :=
  ⟨compiled.file.repaired, compiled.entries.map Entry.repaired⟩

/-- The result of a JSON value. -/
def readResult? (v : Json) : Option DialectSql := do
  return ⟨← v.textAt? "dialect", ← v.textAt? "sql"⟩

/-- The entry of a JSON value; one without a column has an empty one. -/
def Entry.ofJson? (v : Json) : Option Entry := do
  return ⟨← v.textAt? "name", ← v.textAt? "format", (v.textAt? "column").getD [],
    ← v.itemsAt? readResult? "results"⟩

/-- The batch of a JSON document. -/
def Compiled.read? (text : Text) : Option Compiled := do
  let v ← Json.read? text
  return ⟨← v.textAt? "file", ← v.itemsAt? Entry.ofJson? "entries"⟩

theorem readResult?_json (result : DialectSql) :
    readResult? result.json.repaired = some (repairedResult result) := by
  rw [DialectSql.json, Json.repaired]
  rfl

theorem Entry.ofJson?_json (entry : Entry) :
    Entry.ofJson? entry.json.repaired = some entry.repaired := by
  obtain ⟨name, format, column, results⟩ := entry
  have read {v : Json}
      (found : v.field? "results" = some (Json.listOrNull (results.map DialectSql.json)).repaired) :
      v.itemsAt? readResult? "results" = some (results.map repairedResult) :=
    Json.itemsAt?_listOrNull readResult?_json found
  -- an empty column has no field
  cases column with
  | nil => rw [Entry.ofJson?, read rfl]; rfl
  | cons b rest => rw [Entry.ofJson?, read rfl]; rfl

theorem Compiled.read?_render (compiled : Compiled) :
    Compiled.read? (compiled.render .json) = some compiled.repaired := by
  have read {v : Json} (found : v.field? "entries"
        = some (Json.listOrNull (compiled.entries.map Entry.json)).repaired) :
      v.itemsAt? Entry.ofJson? "entries" = some (compiled.entries.map Entry.repaired) :=
    Json.itemsAt?_listOrNull Entry.ofJson?_json found
  rw [Compiled.read?, Compiled.render, Json.read?_document, Option.bind_eq_bind, Option.bind_some,
    read rfl]
  rfl

/-! ## Markdown -/

/-- The section of a result. -/
def resultSection (result : DialectSql) : Text :=
  "\n### " ++ result.dialect ++ "\n\n```sql\n" ++ result.sql ++ "\n```\n"

/-- The section of an entry, with those of its results. -/
def entrySection (entry : Entry) : Text :=
  "\n## " ++ entry.name ++ "\n\n- **Format**: `" ++ entry.format ++ "`\n- **Column**: "
    ++ entry.column ++ "\n" ++ entry.results.flatMap resultSection

/-- The page of a batch, with the sections of its entries. -/
def pageOf (compiled : Compiled) : Text :=
  "# Formats: " ++ compiled.file ++ "\n" ++ compiled.entries.flatMap entrySection

theorem unlines_markdown {result : DialectSql} (plain : result.sql.getLast? ≠ some 0x0A) :
    Text.unlines (result.markdown 3) = resultSection result := by
  have kept : result.sql.trimRightWhile (· = 0x0A) = result.sql := by
    refine Text.trimRightWhile_of_getLast? fun b last => decide_eq_false ?_
    rintro rfl
    exact plain last
  rw [DialectSql.markdown, Output.codeBlock, kept]
  simp only [Text.unlines, List.flatMap_cons, List.flatMap_nil, Output.header, resultSection,
    List.append_assoc]
  rfl

theorem unlines_entry {entry : Entry}
    (plain : ∀ result ∈ entry.results, result.sql.getLast? ≠ some 0x0A) :
    Text.unlines entry.markdown = entrySection entry := by
  have results : Text.unlines (entry.results.flatMap (DialectSql.markdown 3))
      = entry.results.flatMap resultSection := by
    rw [Text.unlines, List.flatMap_assoc]
    exact List.flatMap_congr fun result listed => unlines_markdown (plain result listed)
  rw [Entry.markdown, Text.unlines, List.flatMap_append, ← Text.unlines, ← Text.unlines, results]
  simp only [Text.unlines, List.flatMap_cons, List.flatMap_nil, Output.header, Output.keyValue,
    entrySection, List.append_assoc]
  rfl

/-! ## All shapes -/

/-- What a text is that shows a batch: a document that is read as the batch, a page, or a box with a
row for each result. -/
def Compiled.Shown (compiled : Compiled) (out : Text) : Output.Shape → Prop
  | .json => Compiled.read? out = some compiled.repaired
  | .markdown => out = pageOf compiled
  | .text => Output.Table.Framed ["NAME", "DIALECT", "SQL"]
      (compiled.entries.flatMap fun entry =>
        entry.results.map fun result => [entry.name, result.dialect, result.sql]) out

/-- **A rendered batch is shown**, as long as no SQL of it ends with a line feed. -/
theorem shown_render {compiled : Compiled} (plain : ∀ entry ∈ compiled.entries,
    ∀ result ∈ entry.results, result.sql.getLast? ≠ some 0x0A) (shape : Output.Shape) :
    compiled.Shown (compiled.render shape) shape := by
  cases shape with
  | json => exact compiled.read?_render
  | markdown =>
    show Compiled.render _ _ = _
    have entries : Text.unlines (compiled.entries.flatMap Entry.markdown)
        = compiled.entries.flatMap entrySection := by
      rw [Text.unlines, List.flatMap_assoc]
      exact List.flatMap_congr fun entry listed => unlines_entry (plain entry listed)
    rw [Compiled.render, Text.unlines_cons, entries, pageOf, List.append_assoc]
    rfl
  | text =>
    refine Output.Table.framed_text (by decide) (by decide) (by decide) fun row listed => ?_
    obtain ⟨entry, -, own⟩ := List.mem_flatMap.mp listed
    obtain ⟨result, -, rfl⟩ := List.mem_map.mp own
    rfl

end DatePattern.Batch
