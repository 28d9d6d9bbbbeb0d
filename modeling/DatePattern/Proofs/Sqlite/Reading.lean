import DatePattern.Proofs.Dialect.Quoting
import DatePattern.Proofs.Recipe.Pieces
import DatePattern.Proofs.Sqlite.Syntax
import DatePattern.Recipe

/-!
# Reading back what was written

The SQL of a date format is written piece by piece; here it is read, piece by piece, as the
term that was meant:

- `reads_string`: a string literal is its text, whatever bytes that has;
- `reads_call`, `reads_binary`, `reads_chain`, `reads_case`: calls, operators, chains of one
  operator and searched cases, around operands that can be read;
- `reads_operator`, `reads_all`, `reads_ltrim`, `reads_cases`: the same for the expressions that
  are written this way.
-/

namespace DatePattern.Sqlite

/-! ## Strings -/

theorem scan_stringByte (read : Text) (b : UInt8) :
    scan (.string read) (Engine.sqlite.grammar.stringByte b) = some ([], .string (read ++ [b])) := by
  rw [Grammar.stringByte]
  split_ifs with quote backslash
  · rw [quote]
    rfl
  · exact absurd backslash.1 Bool.false_ne_true
  · rw [scan, Pending.step, Pending.extend, if_neg quote]
    rfl

theorem scan_stringBytes (read text : Text) :
    scan (.string read) (text.flatMap Engine.sqlite.grammar.stringByte)
      = some ([], .string (read ++ text)) := by
  induction text generalizing read with
  | nil =>
    rw [List.append_nil]
    rfl
  | cons b text ih =>
    rw [List.flatMap_cons, scan_append, scan_stringByte, Option.bind_some, ih, List.append_assoc]
    rfl

/-- **A string literal reads back as its text**, whatever bytes it has. -/
theorem reads_string (text : Text) : Reads (Engine.sqlite.grammar.string text) (.string text) := by
  intro frames
  refine ⟨[.string text], ⟨[], .closed text, [.string text], ?_, rfl, rfl, ?_⟩, rfl⟩
  · have opened : Pending.idle.step 0x27 = some ([], .string []) := rfl
    rw [Grammar.string_eq, scan_cons, opened, Option.bind_some, scan_append, scan_stringBytes]
    rfl
  · intro b delimiter
    rw [isDelimiter_iff] at delimiter
    rcases delimiter with rfl | rfl | rfl <;> rfl

/-! ## Calls -/

theorem isDelimited_append {a : Text} (h : isDelimited a = true) (b : Text) :
    isDelimited (a ++ b) = true := by
  cases a with
  | nil => cases h
  | cons c a => exact h

/-- A separated list goes on with its separator or with what closes it. -/
theorem isDelimited_rest {separator close : Text} (hs : isDelimited separator = true)
    (hc : isDelimited close = true) (rest : List Text) :
    isDelimited ((rest.flatMap fun part => separator ++ part) ++ close) = true := by
  cases rest with
  | nil => exact hc
  | cons part rest =>
    rw [List.flatMap_cons, List.append_assoc, List.append_assoc]
    exact isDelimited_append hs _

/-- Behind an argument: the other arguments, and the end of the call. -/
theorem drives_args {rest : List Text} {terms : List Term} (h : List.Forall₂ Reads rest terms)
    (name : Text) (done : List Term) (x : Term) (frames : List Frame) :
    Drives anything (.holding (.args name done :: frames) x)
      ((rest.flatMap fun part => (", " : Text) ++ part) ++ (")" : Text))
      (.holding frames (.call name (done ++ x :: terms))) := by
  induction h generalizing done x with
  | nil => exact .fixed rfl rfl (fun _ => rfl) rfl
  | @cons part y rest terms hy h ih =>
    have comma : Drives anything (.holding (.args name done :: frames) x) ", "
        (.awaiting (.args name (done ++ [x]) :: frames)) :=
      .fixed rfl rfl (fun _ => rfl) rfl
    have others := ih (done ++ [x]) y
    rw [List.append_assoc, List.singleton_append] at others
    rw [List.flatMap_cons, List.append_assoc, List.append_assoc]
    exact comma.append ((hy _).append_delimited others (isDelimited_rest rfl rfl rest))

theorem reads_call {name : Text}
    (opened : ∀ frames, Drives anything (.awaiting frames) (name ++ "(")
      (.awaiting (.args name [] :: frames)))
    {first : Text} {rest : List Text} {x : Term} {terms : List Term} (hx : Reads first x)
    (h : List.Forall₂ Reads rest terms) :
    Reads (name ++ "(" ++ Text.joinWith ", " (first :: rest) ++ ")") (.call name (x :: terms)) := by
  intro frames
  have others := (hx (.args name [] :: frames)).append_delimited (drives_args h name [] x frames)
    (isDelimited_rest rfl rfl rest)
  have whole := (opened frames).append others
  rw [Text.joinWith_cons]
  simpa only [List.append_assoc, List.nil_append] using whole.mono

/-- A call of `strftime` with a specifier and a subject. -/
def Term.strftime (specifier : Text) (subject : Term) : Term :=
  .call "strftime" [.string specifier, subject]

theorem drives_strftime (frames : List Frame) :
    Drives anything (.awaiting frames) ("strftime" ++ "(")
      (.awaiting (.args "strftime" [] :: frames)) :=
  .fixed rfl rfl (fun _ => rfl) rfl

/-! ## Operators -/

/-- Between two operands an operator first settles those that bind at least as tightly. -/
theorem reads_binary {symbol : Text} {op : Binop}
    (written : ∀ frames x, Drives anything (.holding (.paren :: frames) x) (" " ++ symbol ++ " ")
      (.awaiting (.operand op x :: .paren :: frames)))
    {l r : Text} {x y : Term} (hx : Reads l x) (hy : Reads r y) :
    Reads ("(" ++ l ++ " " ++ symbol ++ " " ++ r ++ ")") (.binary op x y) := by
  intro frames
  have opened : Drives anything (.awaiting frames) "(" (.awaiting (.paren :: frames)) :=
    .fixed rfl rfl (fun _ => rfl) rfl
  have closed : Drives anything (.holding (.operand op x :: .paren :: frames) y) ")"
      (.holding frames (.binary op x y)) :=
    .fixed rfl rfl (fun _ => rfl) rfl
  have right := (hy _).append_delimited closed rfl
  have middle := (written frames x).append right
  have whole := opened.append ((hx _).append_delimited middle rfl)
  simpa only [List.append_assoc] using whole.mono

theorem run_close (frames : List Frame) (x : Term) :
    run (.holding frames x) [.symbol ")"]
      = close (.symbol ")") (settle 0 frames x).1 (settle 0 frames x).2 := by
  show (close (.symbol ")") (settle 0 frames x).1 (settle 0 frames x).2).bind some = _
  exact Option.bind_fun_some _

/-- Behind an operand of a chain: the other operands, and the parenthesis that closes it. What
the induction carries is that the operators in front settle to one term. -/
theorem drives_chain {separator : Text} {op : Binop}
    (written : ∀ frames x, Drives anything (.holding frames x) separator
      (.awaiting (.operand op (settle op.strength frames x).2 :: (settle op.strength frames x).1)))
    (delimited : isDelimited separator = true) {rest : List Text} {terms : List Term}
    (h : List.Forall₂ Reads rest terms) (frames : List Frame) {waiting : List Frame} {x acc : Term}
    (settled : ∀ strength ≤ op.strength, settle strength waiting x = (.paren :: frames, acc)) :
    Drives anything (.holding waiting x)
      ((rest.flatMap fun part => separator ++ part) ++ (")" : Text))
      (.holding frames (terms.foldl (.binary op) acc)) := by
  induction h generalizing waiting x acc with
  | nil =>
    refine ⟨[.symbol ")"], ⟨_, _, _, rfl, rfl, rfl, fun _ _ => rfl⟩, ?_⟩
    rw [run_close, settled 0 (Nat.zero_le _)]
    rfl
  | @cons part y rest terms hy h ih =>
    have operator := written waiting x
    rw [settled op.strength le_rfl] at operator
    have again : ∀ strength ≤ op.strength,
        settle strength (.operand op acc :: .paren :: frames) y
          = (.paren :: frames, .binary op acc y) := by
      intro strength weaker
      rw [settle, if_pos weaker]
      rfl
    rw [List.flatMap_cons, List.append_assoc, List.append_assoc]
    exact operator.append ((hy _).append_delimited (ih again) (isDelimited_rest delimited rfl rest))

/-- A chain of one operator groups to the left. -/
theorem reads_chain {separator : Text} {op : Binop}
    (written : ∀ frames x, Drives anything (.holding frames x) separator
      (.awaiting (.operand op (settle op.strength frames x).2 :: (settle op.strength frames x).1)))
    (delimited : isDelimited separator = true) {first : Text} {rest : List Text} {x : Term}
    {terms : List Term} (hx : Reads first x) (h : List.Forall₂ Reads rest terms) :
    Reads ("(" ++ Text.joinWith separator (first :: rest) ++ ")")
      (terms.foldl (.binary op) x) := by
  intro frames
  have opened : Drives anything (.awaiting frames) "(" (.awaiting (.paren :: frames)) :=
    .fixed rfl rfl (fun _ => rfl) rfl
  have alone : ∀ strength ≤ op.strength,
      settle strength (.paren :: frames) x = (.paren :: frames, x) := fun _ _ => rfl
  have others := drives_chain written delimited h frames alone
  have operands := (hx _).append_delimited others (isDelimited_rest delimited rfl rest)
  rw [Text.joinWith_cons]
  simpa only [List.append_assoc] using (opened.append operands).mono

/-! ## Cases -/

/-- The text of one branch. -/
def branchText (branch : Text × Text) : Text := " when " ++ branch.1 ++ " then " ++ branch.2

/-- The texts of a branch read as its condition and its result. -/
def ReadsBranch (branch : Text × Text) (terms : Term × Term) : Prop :=
  Reads branch.1 terms.1 ∧ Reads branch.2 terms.2

/-- A text ends a case behind the result of its last branch. -/
def EndsCase (tail : Text) (default : Option Term) : Prop :=
  isDelimited tail = true ∧ ∀ frames done condition result,
    Drives anything (.holding (.result done condition :: .paren :: frames) result) tail
      (.holding frames (.case (done ++ [(condition, result)]) default))

theorem endsCase_none : EndsCase " end)" none :=
  ⟨rfl, fun _ _ _ _ => .fixed rfl rfl (fun _ => rfl) rfl⟩

theorem endsCase_some {text : Text} {x : Term} (hx : Reads text x) :
    EndsCase (" else " ++ text ++ " end)") (some x) := by
  refine ⟨rfl, fun frames done condition result => ?_⟩
  have otherwise : Drives anything (.holding (.result done condition :: .paren :: frames) result)
      " else " (.awaiting (.default (done ++ [(condition, result)]) :: .paren :: frames)) :=
    .fixed rfl rfl (fun _ => rfl) rfl
  have ended : Drives anything
      (.holding (.default (done ++ [(condition, result)]) :: .paren :: frames) x) " end)"
      (.holding frames (.case (done ++ [(condition, result)]) (some x))) :=
    .fixed rfl rfl (fun _ => rfl) rfl
  have whole := otherwise.append ((hx _).append_delimited ended rfl)
  rwa [← List.append_assoc] at whole

theorem isDelimited_branches {tail : Text} (h : isDelimited tail = true)
    (branches : List (Text × Text)) : isDelimited (branches.flatMap branchText ++ tail) = true := by
  cases branches with
  | nil => exact h
  | cons branch rest => rfl

/-- Behind the result of a branch: the other branches, and the end of the case. -/
theorem drives_branches {rest : List (Text × Text)} {terms : List (Term × Term)}
    (h : List.Forall₂ ReadsBranch rest terms) {tail : Text} {default : Option Term}
    (ends : EndsCase tail default) (frames : List Frame) (done : List (Term × Term))
    (x y : Term) :
    Drives anything (.holding (.result done x :: .paren :: frames) y)
      (rest.flatMap branchText ++ tail)
      (.holding frames (.case (done ++ (x, y) :: terms) default)) := by
  induction h generalizing done x y with
  | nil => exact ends.2 frames done x y
  | @cons branch terms rest all hb h ih =>
    obtain ⟨condition, result⟩ := branch
    obtain ⟨x', y'⟩ := terms
    have when : Drives anything (.holding (.result done x :: .paren :: frames) y) " when "
        (.awaiting (.when (done ++ [(x, y)]) :: .paren :: frames)) :=
      .fixed rfl rfl (fun _ => rfl) rfl
    have next : Drives anything (.holding (.when (done ++ [(x, y)]) :: .paren :: frames) x')
        " then " (.awaiting (.result (done ++ [(x, y)]) x' :: .paren :: frames)) :=
      .fixed rfl rfl (fun _ => rfl) rfl
    have others := ih (done ++ [(x, y)]) x' y'
    rw [List.append_assoc, List.singleton_append] at others
    have results := (hb.2 _).append_delimited others (isDelimited_branches ends.1 rest)
    have whole := when.append ((hb.1 _).append_delimited (next.append results) rfl)
    simpa only [List.flatMap_cons, branchText, List.append_assoc] using whole

theorem reads_case {branch : Text × Text} {rest : List (Text × Text)} {first : Term × Term}
    {terms : List (Term × Term)} (hb : ReadsBranch branch first)
    (h : List.Forall₂ ReadsBranch rest terms) {tail : Text} {default : Option Term}
    (ends : EndsCase tail default) :
    Reads ("(case" ++ (branch :: rest).flatMap branchText ++ tail)
      (.case (first :: terms) default) := by
  intro frames
  obtain ⟨condition, result⟩ := branch
  obtain ⟨x, y⟩ := first
  have opened : Drives anything (.awaiting frames) "(case when "
      (.awaiting (.when [] :: .paren :: frames)) :=
    .fixed rfl rfl (fun _ => rfl) rfl
  have next : Drives anything (.holding (.when [] :: .paren :: frames) x) " then "
      (.awaiting (.result [] x :: .paren :: frames)) :=
    .fixed rfl rfl (fun _ => rfl) rfl
  have others := drives_branches h ends frames [] x y
  have results := (hb.2 _).append_delimited others (isDelimited_branches ends.1 rest)
  have whole := opened.append ((hb.1 _).append_delimited (next.append results) rfl)
  have split : ("(case when " : Text) = "(case" ++ " when " := rfl
  rw [split] at whole
  simpa only [List.flatMap_cons, branchText, List.append_assoc, List.nil_append] using whole.mono

/-! ## Expressions -/

/-- The operator of a built-in comparison or arithmetic. -/
def binop? : Operator → Option Binop
  | .eq => some .eq
  | .ne => some .ne
  | .lt => some .lt
  | .le => some .le
  | .gt => some .gt
  | .ge => some .ge
  | .add => some .add
  | .sub => some .sub
  | .mul => some .mul
  | .div => some .div
  | .mod => some .mod
  | .custom _ => none

variable {F : Type} {format : F → Text → Text}

theorem reads_value (text : Text) :
    Reads ((Expr.value text).text Engine.sqlite.grammar format) (.string text) :=
  reads_string text

theorem reads_operator (op : Operator) {b : Binop} (h : binop? op = some b) {l r : Expr F}
    {x y : Term} (hl : Reads (l.text Engine.sqlite.grammar format) x)
    (hr : Reads (r.text Engine.sqlite.grammar format) y) :
    Reads ((Expr.binary op l r).text Engine.sqlite.grammar format) (.binary b x y) := by
  refine reads_binary (fun frames z => ?_) hl hr
  cases op <;> cases h <;> exact .fixed rfl rfl (fun _ => rfl) rfl

theorem reads_all {first : Expr F} {rest : List (Expr F)} {x : Term} {terms : List Term}
    (hx : Reads (first.text Engine.sqlite.grammar format) x)
    (h : List.Forall₂ Reads (Expr.texts Engine.sqlite.grammar format rest) terms) :
    Reads ((Expr.all (first :: rest)).text Engine.sqlite.grammar format)
      (terms.foldl (.binary .and) x) :=
  reads_chain (fun _ _ => .fixed rfl rfl (fun _ => rfl) rfl) rfl hx h

theorem reads_ltrim {e : Expr F} {x : Term} (hx : Reads (e.text Engine.sqlite.grammar format) x)
    {chars : Text} (nonempty : chars.isEmpty = false) :
    Reads ((Expr.ltrim e chars).text Engine.sqlite.grammar format)
      (.call "ltrim" [x, .string chars]) := by
  have opened : ∀ frames, Drives anything (.awaiting frames) ("ltrim" ++ "(")
      (.awaiting (.args "ltrim" [] :: frames)) :=
    fun _ => .fixed rfl rfl (fun _ => rfl) rfl
  have call := reads_call opened hx (.cons (reads_string chars) .nil)
  have written : (Expr.ltrim e chars).text Engine.sqlite.grammar format
      = "ltrim(" ++ e.text Engine.sqlite.grammar format ++ ", "
        ++ Engine.sqlite.grammar.string chars ++ ")" := by
    show Sql.ltrim _ _ _ = _
    rw [Sql.ltrim, nonempty]
    rfl
  have name : ("ltrim(" : Text) = "ltrim" ++ "(" := rfl
  rw [written, name]
  simpa only [Text.joinWith, List.append_assoc] using call

/-- The texts of the condition and the result of a branch. -/
def branchTexts (format : F → Text → Text) (branch : Expr F × Expr F) : Text × Text :=
  (branch.1.text Engine.sqlite.grammar format, branch.2.text Engine.sqlite.grammar format)

/-- Branches of a case, each with terms for its condition and its result. -/
def ReadsBranches (format : F → Text → Text) (branches : List (Expr F × Expr F))
    (terms : List (Term × Term)) : Prop :=
  List.Forall₂ (fun branch terms => ReadsBranch (branchTexts format branch) terms) branches terms

/-- The default of a case, with a term for it. -/
def ReadsDefault (format : F → Text → Text) : Option (Expr F) → Option Term → Prop
  | none, none => True
  | some e, some x => Reads (e.text Engine.sqlite.grammar format) x
  | _, _ => False

theorem branchTexts_eq (branches : List (Expr F × Expr F)) :
    Expr.branchTexts Engine.sqlite.grammar format branches
      = (branches.map (branchTexts format)).flatMap branchText := by
  induction branches with
  | nil => rfl
  | cons branch rest ih =>
    obtain ⟨condition, result⟩ := branch
    rw [Expr.branchTexts, ih]
    rfl

theorem endsCase_default {default : Option (Expr F)} {x : Option Term}
    (h : ReadsDefault format default x) :
    EndsCase (Expr.defaultText Engine.sqlite.grammar format default ++ " end)") x := by
  cases default with
  | none =>
    cases x with
    | none => exact endsCase_none
    | some x => exact h.elim
  | some e =>
    cases x with
    | none => exact h.elim
    | some x => exact endsCase_some h

theorem reads_cases {branch : Expr F × Expr F} {rest : List (Expr F × Expr F)}
    {terms : List (Term × Term)} (h : ReadsBranches format (branch :: rest) terms)
    {default : Option (Expr F)} {x : Option Term} (hd : ReadsDefault format default x) :
    Reads ((Expr.case (branch :: rest) default).text Engine.sqlite.grammar format)
      (.case terms x) := by
  cases h with
  | @cons _ first _ terms hb hr =>
    have others : List.Forall₂ ReadsBranch (rest.map (branchTexts format)) terms :=
      List.forall₂_map_left_iff.mpr hr
    have whole := reads_case hb others (endsCase_default hd)
    rw [Expr.text, branchTexts_eq, List.map_cons]
    simpa only [List.append_assoc] using whole

end DatePattern.Sqlite
