import DatePattern.Plan.NativeFormat

/-!
# Compilation

A format is planned for an engine, its fragments are written around the SQL of a subject,
and several fragments are concatenated. Only the subject's SQL matters, so a date format
can itself be a part of an expression.

* `plan` and `explain` give the fragments, `explain` with the steps before them;
* `emit` writes fragments, `compile` plans and writes;
* `Expr.sql` is the SQL of an expression that may hold date formats;
* `compileEach` gives the SQL of one format for several dialects, one entry per dialect.
-/

namespace DatePattern

/-- An expression that may hold accepted date formats. -/
abbrev SqlExpr := Expr Pattern

/-- Every step of a compilation. -/
structure Explanation where
  /-- The dialect. -/
  kind : Kind
  /-- The format. -/
  format : Text
  /-- Its tokens. -/
  tokens : List Token
  /-- Their resolutions. -/
  resolutions : List Resolution
  /-- The fragments. -/
  fragments : List Fragment

/-- Why fragments cannot be written. -/
inductive EmitFault where
  /-- An emulated fragment has no parts. -/
  | noParts
  /-- An emulated fragment has no recipe. -/
  | noRecipe
  deriving DecidableEq, Repr

/-- The wording of an emission fault. -/
def EmitFault.message : EmitFault → Text
  | .noParts => "runtime error: index out of range [0] with length 0"
  | .noRecipe => "datefmt: unknown recipe type"

namespace Fragment

/-- A call of the engine's date function. -/
def nativeCall (g : Grammar) (subject format : Text) : Text :=
  match g.kind.engine? with
  | some .mysql => "date_format(" ++ subject ++ ", " ++ g.string format ++ ")"
  | some .sqlite => "strftime(" ++ g.string format ++ ", " ++ subject ++ ")"
  | some .sqlserver => "format(" ++ subject ++ ", " ++ g.string format ++ ")"
  | _ => "to_char(" ++ subject ++ ", " ++ g.string format ++ ")"

/-- What keeps a fragment from being written. -/
def fault? (fragment : Fragment) : Option EmitFault :=
  if fragment.emulated then
    match fragment.parts with
    | [] => some .noParts
    | part :: _ => if part.recipe?.isNone then some .noRecipe else none
  else none

/-- The SQL of a fragment around a subject's SQL; empty when it has a fault. -/
def sql (g : Grammar) (subject : Text) (fragment : Fragment) : Text :=
  if fragment.emulated then
    match fragment.parts.head?.bind Resolution.recipe? with
    | some recipe => recipe.sql g subject
    | none => []
  else nativeCall g subject (NativeFormat.ofParts g.kind fragment.parts)

end Fragment

/-- The SQL of fragments around a subject's SQL: none is the empty string, one stands by
itself, several are concatenated. -/
def emit (g : Grammar) (subject : Text) (fragments : List Fragment) : Text :=
  match fragments.map (Fragment.sql g subject) with
  | [] => g.string []
  | [single] => single
  | several => Sql.concat g.kind several

/-- The engine of a dialect. -/
def Kind.requireEngine (kind : Kind) : Except CompileError Engine :=
  match kind.engine? with
  | some engine => .ok engine
  | none => .error (.dialect (.unknownKind kind))

/-- The resolution of a token for a dialect. -/
def Kind.resolve (kind : Kind) (token : Token) : Except CompileError Resolution := do
  let engine ← kind.requireEngine
  (Resolution.resolve engine token).mapError .pattern

/-- The resolutions of tokens for a dialect, or the error of the first that has one. -/
def Kind.resolveAll (kind : Kind) : List Token → Except CompileError (List Resolution)
  | [] => .ok []
  | token :: rest => do return (← kind.resolve token) :: (← resolveAll kind rest)

/-- The steps of a compilation for a dialect. -/
def explain (kind : Kind) (format : Text) : Except CompileError Explanation := do
  let engine ← kind.requireEngine
  (Pattern.checkEncoding format).mapError .pattern
  let tokens := Token.tokenize format
  let resolutions ← (Resolution.resolveAll engine tokens).mapError .pattern
  return { kind, format, tokens, resolutions, fragments := Fragment.coalesce resolutions }

/-- The fragments of a format for a dialect. -/
def plan (kind : Kind) (format : Text) : Except CompileError (List Fragment) := do
  return (← explain kind format).fragments

/-- The SQL of a format around a subject's SQL. -/
def compileText (g : Grammar) (subject format : Text) : Except CompileError Text := do
  return emit g subject (← plan g.kind format)

namespace Expr

/-- The SQL of an expression. A date format under a dialect of no engine is empty; `sql`
reports it. -/
def render (g : Grammar) (e : SqlExpr) : Text :=
  e.text g fun pattern subject =>
    match compileText g subject pattern.format with
    | .ok sql => sql
    | .error _ => []

/-- The SQL of an expression; a date format needs a dialect of an engine. -/
def sql (g : Grammar) (e : SqlExpr) : Except DialectError Text :=
  if e.hasFormat && !g.kind.isValid then .error (.unknownKind g.kind) else .ok (e.render g)

end Expr

/-- The SQL of a format applied to an expression. -/
def compile (g : Grammar) (subject : SqlExpr) (format : Text) : Except CompileError Text :=
  compileText g (subject.render g) format

/-!
## Subjects

What a format is applied to, with the text that it is shown as: a column by its name, or a
piece of SQL as it is.
-/

/-- What a format is applied to. -/
structure Subject where
  /-- The subject as an expression. -/
  expr : SqlExpr
  /-- The subject as it was written. -/
  label : Text

namespace Subject

/-- A column as subject. -/
def column (name : Text) : Subject := ⟨.column name, name⟩

/-- A piece of SQL as subject. -/
def raw (sql : Text) : Subject := ⟨.raw sql, sql⟩

end Subject

/-- The SQL of a format for one dialect. -/
structure DialectSql where
  dialect : Text
  sql : Text
  deriving DecidableEq, Repr

/-- A format that cannot be compiled for a dialect. -/
structure DialectFailure where
  dialect : Text
  cause : CompileError
  deriving DecidableEq, Repr

/-- The SQL of a format for each of some dialects, or the first failure. -/
def compileEach (subject : SqlExpr) (format : Text) :
    List Grammar → Except DialectFailure (List DialectSql)
  | [] => .ok []
  | g :: rest =>
    match compile g subject format with
    | .error cause => .error ⟨g.name, cause⟩
    | .ok sql => do return ⟨g.name, sql⟩ :: (← compileEach subject format rest)

end DatePattern
