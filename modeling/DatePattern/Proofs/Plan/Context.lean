import DatePattern.Proofs.Plan.Stages
import DatePattern.Proofs.Recipe.Pieces

/-!
# A compiled format around its subject

Templates put the SQL of a subject into text, syntheses build a tree around it and native calls
take it as an argument. All of them only write it down, as often as they need it. So a compiled
format is a fixed text with places for the subject, the same for every subject:

- `Surrounds`: a function of the subject's SQL that joins fixed segments with it. Such functions
  are closed under putting text around them and one behind the other, with the places adding up;
- `Recipe.surrounds`, `Fragment.surrounds`, `surrounds_emit`: the stages of writing, each with
  the number of its places;
- `Fragment.places_pos`: every fragment of a plan has a place for the subject;
- `Synthesis.text_build`, `compile_eq_lower`: the SQL that is written around the text of a subject is
  the text of the tree that the plan builds around the subject itself.
-/

namespace DatePattern

/-! ## Text with places for a subject -/

/-- `f` joins segments of text, which do not depend on the subject, with the subject; it stands in
`places` places. -/
def Surrounds (places : Nat) (f : Text → Text) : Prop :=
  ∃ segments : List Text, segments.length = places + 1 ∧
    ∀ subject, f subject = Text.joinWith subject segments

namespace Surrounds

variable {m n : Nat} {f g : Text → Text}

/-- Fixed text has no place for the subject. -/
theorem text (t : Text) : Surrounds 0 fun _ => t := ⟨[t], rfl, fun _ => rfl⟩

/-- The subject by itself. -/
theorem subject : Surrounds 1 fun subject => subject := by
  refine ⟨[[], []], rfl, fun subject => ?_⟩
  simp [Text.joinWith]

/-- One behind the other: the last segment of the first joins the first segment of the second. -/
theorem append (hf : Surrounds m f) (hg : Surrounds n g) :
    Surrounds (m + n) fun subject => f subject ++ g subject := by
  obtain ⟨segments, length, joined⟩ := hf
  obtain ⟨segments', length', joined'⟩ := hg
  match segments, segments' with
  | first :: rest, first' :: rest' =>
    rw [List.length_cons] at length length'
    rcases List.eq_nil_or_concat rest with rfl | ⟨init, last, rfl⟩
    · refine ⟨(first ++ first') :: rest', ?_, fun subject => ?_⟩
      · rw [List.length_nil] at length
        rw [List.length_cons]
        omega
      · simp only [joined, joined', Text.joinWith_cons]
        simp
    · refine ⟨first :: (init ++ (last ++ first') :: rest'), ?_, fun subject => ?_⟩
      · rw [List.length_concat] at length
        rw [List.length_cons, List.length_append, List.length_cons]
        omega
      · simp only [joined, joined', Text.joinWith_cons]
        simp

theorem before (h : Surrounds n f) (t : Text) : Surrounds n fun subject => t ++ f subject :=
  Nat.zero_add n ▸ (text t).append h

theorem after (h : Surrounds n f) (t : Text) : Surrounds n fun subject => f subject ++ t :=
  h.append (text t)

/-- Texts with a separator between neighbours. -/
theorem joinWith {α : Type} (separator : Text) {places : α → Nat} {write : α → Text → Text}
    {xs : List α} (h : ∀ x ∈ xs, Surrounds (places x) (write x)) :
    Surrounds (xs.map places).sum
      fun subject => Text.joinWith separator (xs.map (write · subject)) := by
  induction xs with
  | nil => exact text []
  | cons x rest ih =>
    obtain ⟨first, others⟩ := List.forall_mem_cons.mp h
    cases rest with
    | nil => exact first
    | cons y rest => exact (first.after separator).append (ih others)

/-! ## Expressions around a subject -/

section Expressions

variable {F : Type} {grammar : Grammar} {format : F → Text → Text}

/-- An expression without the subject. -/
theorem fixed (e : Expr F) : Surrounds 0 fun _ => e.text grammar format := text _

/-- The subject as an expression. -/
theorem raw : Surrounds 1 fun subject => (Expr.raw subject : Expr F).text grammar format := by
  simp only [Expr.text_raw]
  exact subject

theorem call (name : Text) {e : Text → Expr F}
    (h : Surrounds n fun subject => (e subject).text grammar format) :
    Surrounds n fun subject => (Expr.call name [e subject]).text grammar format := by
  simp only [Expr.text, Expr.texts, Text.joinWith]
  exact (h.before _).after _

/-- A call whose first argument is without the subject. -/
theorem callBehind (name : Text) (first : Expr F) {e : Text → Expr F}
    (h : Surrounds n fun subject => (e subject).text grammar format) :
    Surrounds n fun subject => (Expr.call name [first, e subject]).text grammar format := by
  simp only [Expr.text, Expr.texts, Text.joinWith]
  exact ((h.before _).before _).after _

theorem both {left right : Text → Expr F}
    (hl : Surrounds m fun subject => (left subject).text grammar format)
    (hr : Surrounds n fun subject => (right subject).text grammar format) :
    Surrounds (m + n) fun subject =>
      (Expr.all [left subject, right subject]).text grammar format := by
  simp only [Expr.text, Expr.texts, Text.joinWith]
  exact (((hl.after _).append hr).before _).after _

theorem binary (op : Operator) {left right : Text → Expr F}
    (hl : Surrounds m fun subject => (left subject).text grammar format)
    (hr : Surrounds n fun subject => (right subject).text grammar format) :
    Surrounds (m + n) fun subject =>
      (Expr.binary op (left subject) (right subject)).text grammar format := by
  simp only [Expr.text]
  exact (((((hl.before _).after _).after _).after _).append hr).after _

theorem ltrim {operand : Text → Expr F}
    (h : Surrounds n fun subject => (operand subject).text grammar format) (chars : Text) :
    Surrounds n fun subject => (Expr.ltrim (operand subject) chars).text grammar format := by
  simp only [Expr.text, Sql.ltrim]
  split
  · exact (h.before _).after _
  · exact (((h.before _).after _).after _).after _

theorem branch {condition result : Text → Expr F} {rest : Text → List (Expr F × Expr F)} {k : Nat}
    (hc : Surrounds m fun subject => (condition subject).text grammar format)
    (hr : Surrounds n fun subject => (result subject).text grammar format)
    (others : Surrounds k fun subject => Expr.branchTexts grammar format (rest subject)) :
    Surrounds (m + n + k) fun subject => Expr.branchTexts grammar format
      ((condition subject, result subject) :: rest subject) := by
  simp only [Expr.branchTexts]
  exact (((hc.before _).after _).append hr).append others

theorem noBranches : Surrounds 0 fun _ => Expr.branchTexts grammar format [] := text _

theorem default {e : Text → Expr F}
    (h : Surrounds n fun subject => (e subject).text grammar format) :
    Surrounds n fun subject => Expr.defaultText grammar format (some (e subject)) := by
  simp only [Expr.defaultText]
  exact h.before _

theorem noDefault : Surrounds 0 fun _ => Expr.defaultText grammar format none := text _

theorem case {branches : Text → List (Expr F × Expr F)} {default : Text → Option (Expr F)}
    (hb : Surrounds m fun subject => Expr.branchTexts grammar format (branches subject))
    (hd : Surrounds n fun subject => Expr.defaultText grammar format (default subject)) :
    Surrounds (m + n) fun subject =>
      (Expr.case (branches subject) (default subject)).text grammar format := by
  simp only [Expr.text]
  exact ((hb.before _).append hd).after _

end Expressions

end Surrounds

/-! ## Recipes -/

namespace Synthesis

/-- In how many places a synthesis writes its subject. -/
def places : Synthesis → Nat
  | .hourMeridiem _ _ | .partMeridiem _ _ | .clockMeridiem _ _ | .unpadded _ => 1
  | .named _ names => names.length
  | .hourOfTwelve => 4
  | .paddedHourOfTwelve => 5

section

variable {g : Grammar} {format : Empty → Text → Text}

theorem surrounds_strftime (specifier : Text) :
    Surrounds 1 fun subject => (strftime specifier (.raw subject)).text g format :=
  Surrounds.raw.callBehind "strftime" (.value specifier)

theorem surrounds_meridiem {hour : Text → Expr Empty}
    (h : Surrounds 1 fun subject => (hour subject).text g format) (noon : Expr Empty)
    (am pm : Text) :
    Surrounds 1 fun subject => (meridiem (hour subject) noon am pm).text g format :=
  .case (.branch (.binary .lt h (.fixed noon)) (.fixed (.value am)) .noBranches)
    (.default (.fixed (.value pm)))

theorem surrounds_names (specifier : Text) (names : List (Text × Text)) :
    Surrounds names.length fun subject => Expr.branchTexts g format
      (names.map fun (key, name) =>
        (.binary .eq (strftime specifier (.raw subject)) (.value key), .value name)) := by
  induction names with
  | nil => exact .text []
  | cons entry rest ih =>
    rw [List.length_cons, Nat.add_comm]
    exact .branch (.binary .eq (surrounds_strftime specifier) (.fixed (.value entry.1)))
      (.fixed (.value entry.2)) ih

theorem surrounds_build (synthesis : Synthesis) :
    Surrounds synthesis.places fun subject =>
      (synthesis.build (.raw subject)).text g format := by
  have hour : Surrounds 1 fun subject => (strftime "%H" (.raw subject)).text g format :=
    surrounds_strftime "%H"
  cases synthesis with
  | hourMeridiem am pm => exact surrounds_meridiem (.call "hour" .raw) twelve am pm
  | partMeridiem am pm =>
    exact surrounds_meridiem (.callBehind "datepart" (.raw "hour") .raw) twelve am pm
  | clockMeridiem am pm => exact surrounds_meridiem hour _ am pm
  | named specifier names => exact (surrounds_names specifier names).case .noDefault
  | unpadded specifier => exact (surrounds_strftime specifier).ltrim "0"
  | hourOfTwelve =>
    have midnight := hour.binary .eq (.fixed (.value "00"))
    have afternoon := hour.binary .gt (.fixed (.value "12"))
    have lessTwelve := hour.binary .sub (.fixed twelve)
    have branches := midnight.branch (.fixed (.value "12"))
      (afternoon.branch lessTwelve .noBranches)
    exact branches.case (hour.ltrim "0").default
  | paddedHourOfTwelve =>
    have positive := hour.binary .gt (.fixed (.value "00"))
    have beforeOne := hour.binary .le (.fixed (.value "12"))
    have midnight := hour.binary .eq (.fixed (.value "00"))
    have lessTwelve := hour.binary .sub (.fixed twelve)
    have padded := lessTwelve.callBehind "printf" (.value "%02d")
    have branches := (positive.both beforeOne).branch hour
      (midnight.branch (.fixed (.value "12")) .noBranches)
    exact branches.case padded.default

end

theorem surrounds (g : Grammar) (synthesis : Synthesis) :
    Surrounds synthesis.places (synthesis.sql g) :=
  surrounds_build synthesis

end Synthesis

namespace Recipe

/-- In how many places a recipe writes its subject. -/
def places : Recipe → Nat
  | .template t => t.pieces.length - 1
  | .synthesis s => s.places

theorem surrounds (g : Grammar) (recipe : Recipe) :
    Surrounds recipe.places fun subject => recipe.sql g subject := by
  cases recipe with
  | template t =>
    have some : t.pieces.length ≠ 0 :=
      fun none => Template.piecesFrom_ne_nil _ _ (List.length_eq_zero_iff.mp none)
    refine ⟨t.pieces, ?_, t.render_eq⟩
    show t.pieces.length = t.pieces.length - 1 + 1
    omega
  | synthesis s => exact s.surrounds g

end Recipe

/-! ## Fragments -/

namespace Fragment

theorem surrounds_nativeCall (g : Grammar) (format : Text) :
    Surrounds 1 fun subject => nativeCall g subject format := by
  unfold nativeCall
  split
  · exact (((Surrounds.subject.before _).after _).after _).after _
  · exact (Surrounds.subject.before _).after _
  · exact (((Surrounds.subject.before _).after _).after _).after _
  · exact (((Surrounds.subject.before _).after _).after _).after _

/-- In how many places a fragment writes its subject. -/
def places (fragment : Fragment) : Nat :=
  if fragment.emulated then
    match fragment.parts.head?.bind Resolution.recipe? with
    | some recipe => recipe.places
    | none => 0
  else 1

theorem surrounds (g : Grammar) (fragment : Fragment) :
    Surrounds fragment.places fun subject => fragment.sql g subject := by
  unfold places sql
  cases fragment.emulated with
  | true =>
    cases fragment.parts.head?.bind Resolution.recipe? with
    | some recipe => exact recipe.surrounds g
    | none => exact .text []
  | false => exact surrounds_nativeCall g _

end Fragment

/-- What is written for fragments has the places of each of them. -/
theorem surrounds_emit (g : Grammar) (fragments : List Fragment) :
    Surrounds (fragments.map Fragment.places).sum fun subject => emit g subject fragments := by
  have each : ∀ fragment ∈ fragments, Surrounds fragment.places fun subject =>
      fragment.sql g subject := fun fragment _ => fragment.surrounds g
  match fragments with
  | [] => exact .text _
  | [single] => exact single.surrounds g
  | first :: second :: rest =>
    show Surrounds _ fun subject => Sql.concat g.kind
      ((first :: second :: rest).map fun fragment => fragment.sql g subject)
    unfold Sql.concat
    split
    · exact ((Surrounds.joinWith ", " each).before _).after _
    · exact ((Surrounds.joinWith ", " each).before _).after _
    · exact ((Surrounds.joinWith " || " each).before _).after _

/-! ## Trees around a subject -/

namespace Synthesis

section

variable {F G : Type} {g : Grammar} {format : F → Text → Text} {format' : G → Text → Text}
  {subject : Expr F} {subject' : Expr G} (same : subject.text g format = subject'.text g format')
include same

theorem text_strftime_congr (specifier : Text) :
    (strftime specifier subject).text g format = (strftime specifier subject').text g format' := by
  simp only [strftime, Expr.text, Expr.texts, same]

theorem branchTexts_names_congr (specifier : Text) (names : List (Text × Text)) :
    Expr.branchTexts g format (names.map fun (key, name) =>
        (.binary .eq (strftime specifier subject) (.value key), .value name))
      = Expr.branchTexts g format' (names.map fun (key, name) =>
        (.binary .eq (strftime specifier subject') (.value key), .value name)) := by
  induction names with
  | nil => rw [List.map_nil, List.map_nil, Expr.branchTexts, Expr.branchTexts]
  | cons entry rest ih =>
    rw [List.map_cons, List.map_cons, Expr.branchTexts, Expr.branchTexts, ih]
    simp only [Expr.text, text_strftime_congr same]

/-- A synthesis only writes its subject down, so around subjects of one text it gives one text. -/
theorem text_build_congr (synthesis : Synthesis) :
    (synthesis.build subject).text g format = (synthesis.build subject').text g format' := by
  have hour := text_strftime_congr same "%H"
  cases synthesis with
  | named specifier names =>
    simp only [build, Expr.text, Expr.defaultText, branchTexts_names_congr same]
  | unpadded specifier => simp only [build, Expr.text, text_strftime_congr same]
  | hourMeridiem | partMeridiem =>
    simp only [build, meridiem, twelve, Expr.text, Expr.texts, Expr.branchTexts, Expr.defaultText,
      same]
  | clockMeridiem | hourOfTwelve | paddedHourOfTwelve =>
    simp only [build, meridiem, twelve, Expr.text, Expr.texts, Expr.branchTexts, Expr.defaultText,
      hour]

end

/-- The text of the tree around a subject is what is written around the subject's text. -/
theorem text_build {F : Type} (g : Grammar) (format : F → Text → Text) (subject : Expr F)
    (synthesis : Synthesis) :
    (synthesis.build subject).text g format = synthesis.sql g (subject.text g format) :=
  text_build_congr (Expr.text_raw g _ _).symm synthesis

end Synthesis

section Trees

variable {F : Type} (g : Grammar) (format : F → Text → Text) (subject : Expr F)

/-- The expression of a recipe around a subject. A template is SQL text already. -/
def Recipe.build : Recipe → Expr F
  | .template t => .raw (t.render (subject.text g format))
  | .synthesis s => s.build subject

theorem Recipe.text_build (recipe : Recipe) :
    (recipe.build g format subject).text g format = recipe.sql g (subject.text g format) := by
  cases recipe with
  | template t => exact Expr.text_raw g format _
  | synthesis s => exact s.text_build g format subject

/-- A call of an engine's date function. -/
def Fragment.lowerNative (native : Text) : Expr F :=
  match g.kind.engine? with
  | some .mysql => .call "date_format" [subject, .value native]
  | some .sqlite => .call "strftime" [.value native, subject]
  | some .sqlserver => .call "format" [subject, .value native]
  | _ => .call "to_char" [subject, .value native]

theorem Fragment.text_lowerNative (native : Text) :
    (lowerNative g subject native).text g format
      = nativeCall g (subject.text g format) native := by
  unfold lowerNative nativeCall
  cases g.kind.engine? with
  | none =>
    simp only [Expr.text, Expr.texts, Text.joinWith, List.append_assoc]
    rfl
  | some engine =>
    cases engine <;> simp only [Expr.text, Expr.texts, Text.joinWith, List.append_assoc] <;> rfl

/-- The expression of a fragment around a subject; empty when it has a fault. -/
def Fragment.lower (fragment : Fragment) : Expr F :=
  if fragment.emulated then
    match fragment.parts.head?.bind Resolution.recipe? with
    | some recipe => recipe.build g format subject
    | none => .raw []
  else lowerNative g subject (NativeFormat.ofParts g.kind fragment.parts)

theorem Fragment.text_lower (fragment : Fragment) :
    (fragment.lower g format subject).text g format = fragment.sql g (subject.text g format) := by
  unfold lower sql
  cases fragment.emulated with
  | true =>
    cases fragment.parts.head?.bind Resolution.recipe? with
    | some recipe => exact recipe.text_build g format subject
    | none => exact Expr.text_raw g format []
  | false => exact text_lowerNative g format subject _

/-- The expression of a plan around a subject. -/
def lower (fragments : List Fragment) : Expr F :=
  match fragments.map (Fragment.lower g format subject) with
  | [] => .value []
  | [single] => single
  | several => .concat several

theorem texts_lower (fragments : List Fragment) :
    Expr.texts g format (fragments.map (Fragment.lower g format subject))
      = fragments.map (Fragment.sql g (subject.text g format)) := by
  induction fragments with
  | nil => rfl
  | cons fragment rest ih => rw [List.map_cons, Expr.texts, ih, Fragment.text_lower, List.map_cons]

theorem text_lower (fragments : List Fragment) :
    (lower g format subject fragments).text g format
      = emit g (subject.text g format) fragments := by
  have texts := texts_lower g format subject fragments
  match fragments with
  | [] =>
    show (Expr.value []).text g format = g.string []
    rw [Expr.text]
  | [single] => exact single.text_lower g format subject
  | first :: second :: rest =>
    show (Expr.concat _).text g format = Sql.concat g.kind _
    rw [Expr.text]
    exact congrArg _ texts

end Trees

/-- **Compiling writes the tree of the plan.** The SQL of a format around the text of a subject is
the text of the expression that the plan builds around the subject. -/
theorem compile_eq_lower (g : Grammar) (subject : SqlExpr) (format : Text) :
    ∃ inner : Pattern → Text → Text, (∀ e : SqlExpr, e.render g = e.text g inner) ∧
      compile g subject format
        = (plan g.kind format).map fun fragments => (lower g inner subject fragments).render g := by
  refine ⟨_, fun e => rfl, ?_⟩
  rw [compile, compileText]
  cases plan g.kind format with
  | error e => rfl
  | ok fragments => exact congrArg Except.ok (text_lower g _ subject fragments).symm

/-! ## Plans -/

/-- In how many places the entry of a table writes a subject. -/
def Capability.places : Capability → Nat
  | .native _ => 1
  | .emulated recipe => recipe.places

/-- No recipe of a table leaves its subject out. -/
theorem Engine.places_table (engine : Engine) : ∀ entry ∈ engine.table, 1 ≤ entry.2.places := by
  cases engine <;> decide

/-- Every fragment of a plan has a place for the subject. -/
theorem Fragment.places_pos {engine : Engine} {tokens : List Token} {fragment : Fragment}
    (group : GroupOf (tokens.map (Resolution.decided engine)) fragment) : 1 ≤ fragment.places := by
  rcases group with ⟨emulated, r, mem, manner, parts⟩ | ⟨native, -⟩
  · obtain ⟨token, -, rfl⟩ := List.mem_map.mp mem
    obtain ⟨-, recipe, found, listed⟩ := Resolution.recipe?_decided manner
    have places : fragment.places = recipe.places := by
      rw [Fragment.places, if_pos emulated, parts, List.head?_cons, Option.bind_some, found]
    rw [places]
    exact engine.places_table _ (Engine.mem_table_of_capability? listed)
  · rw [Fragment.places, native]
    exact Nat.le_refl 1

theorem Token.ofCharsFrom_ne_nil (pos : Nat) {cs : List Char} (h : cs ≠ []) :
    ofCharsFrom pos cs ≠ [] := by
  match cs, h with
  | [c], _ => exact List.cons_ne_nil _ _
  | c :: d :: rest, _ =>
    rw [ofCharsFrom]
    split <;> exact List.cons_ne_nil _ _

/-- Only the empty format has an empty plan. -/
theorem Fragment.coalesce_tokenize_ne_nil {format : Text} (h : format ≠ []) (engine : Engine) :
    coalesce ((Token.tokenize format).map (Resolution.decided engine)) ≠ [] := by
  intro empty
  have chars : format.chars ≠ [] := by
    match format, h with
    | b :: rest, _ => exact List.cons_ne_nil _ _
  have none : (Token.tokenize format).map (Resolution.decided engine) = [] := by
    rw [← parts_coalesce ((Token.tokenize format).map _), empty]
    rfl
  exact Token.ofCharsFrom_ne_nil 0 chars (List.map_eq_nil_iff.mp none)

theorem Expr.sql_eq {g : Grammar} (valid : g.kind.isValid = true) (e : SqlExpr) :
    e.sql g = .ok (e.render g) := by
  rw [Expr.sql, valid]
  simp

/-- **A compiled format is a fixed text around its subject.** For a dialect of an engine and an
accepted format there are segments of text such that the SQL of the format applied to any subject
is the segments joined with the SQL of the subject, and only that SQL matters. Every fragment of
the plan writes the subject in one place at least, and the segments have the places of all of
them. -/
theorem compile_surrounds (g : Grammar) (valid : g.kind.isValid = true) (format : Text)
    (accepted : Pattern.validate format = .ok ()) :
    ∃ (fragments : List Fragment) (segments : List Text),
      plan g.kind format = .ok fragments ∧
      (∀ subject : SqlExpr, ∃ sql, subject.sql g = .ok sql ∧
        compile g subject format = .ok (Text.joinWith sql segments) ∧
        compile g subject format = compile g (.raw sql) format) ∧
      segments.length = (fragments.map Fragment.places).sum + 1 ∧
      (∀ fragment ∈ fragments, 1 ≤ fragment.places ∧
        Surrounds fragment.places fun sql => fragment.sql g sql) ∧
      (format ≠ [] → fragments ≠ []) := by
  obtain ⟨engine, kind⟩ := Kind.eq_kind_of_isValid valid
  have planned := plan_eq engine format
  rw [accepted] at planned
  obtain ⟨segments, length, joined⟩ := surrounds_emit g
    (Fragment.coalesce ((Token.tokenize format).map (Resolution.decided engine)))
  refine ⟨_, segments, kind ▸ planned, ?_, length, ?_, ?_⟩
  · intro subject
    refine ⟨subject.render g, Expr.sql_eq valid subject, ?_, rfl⟩
    rw [compile, compileText_eq kind, accepted]
    exact congrArg Except.ok (joined _)
  · intro fragment mem
    exact ⟨Fragment.places_pos (Fragment.groupOf_coalesce _ fragment mem), fragment.surrounds g⟩
  · intro some
    exact Fragment.coalesce_tokenize_ne_nil some engine

/-- A template, a native call and a case over seven names, around a column and around SQL with
quotes and braces in it. -/
theorem compile_surrounds_example :
    let g := Engine.sqlite.grammar
    let format : Text := "y D"
    let braces : Text := "'\x7bexpr\x7d'"
    g.kind.isValid = true ∧ Pattern.validate format = .ok () ∧
    ∃ segments : List Text, segments.length = 10 ∧
      compile g (.column "at") format = .ok (Text.joinWith "\"at\"" segments) ∧
      compile g (.raw braces) format = .ok (Text.joinWith braces segments) := by
  intro g format braces
  have valid : g.kind.isValid = true := rfl
  have accepted : Pattern.validate format = .ok () := by decide
  obtain ⟨fragments, segments, planned, joined, length, -⟩ :=
    compile_surrounds g valid format accepted
  have computed : plan g.kind format = .ok (Fragment.coalesce
      ((Token.tokenize format).map (Resolution.decided .sqlite))) := by decide
  rw [computed] at planned
  cases planned
  have nine : ((Fragment.coalesce
      ((Token.tokenize format).map (Resolution.decided .sqlite))).map Fragment.places).sum = 9 := by
    decide
  obtain ⟨column, columnSql, columnCompiled, -⟩ := joined (.column "at")
  obtain ⟨raw, rawSql, rawCompiled, -⟩ := joined (.raw braces)
  cases columnSql
  cases rawSql
  exact ⟨valid, accepted, segments, by rw [length, nine], columnCompiled, rawCompiled⟩

end DatePattern
