import DatePattern.Calendar.Moment
import DatePattern.Dialect.Grammar
import DatePattern.Number.Shortest

/-!
# SQL expressions

A tree of the SQL that is built for an engine, and its text under a grammar. The type
parameter says what a formatted-date node carries; at `Empty` there are no such nodes, so
the trees from which date formats themselves are built cannot contain one.
-/

namespace DatePattern

/-- The operators that stand between two operands. -/
inductive Operator where
  | eq | ne | lt | le | gt | ge
  | add | sub | mul | div | mod
  /-- Any other comparison, by its symbol. -/
  | custom (symbol : Text)
  deriving DecidableEq, Repr

/-- The symbol of an operator. -/
def Operator.symbol : Operator → Text
  | .eq => "="
  | .ne => "<>"
  | .lt => "<"
  | .le => "<="
  | .gt => ">"
  | .ge => ">="
  | .add => "+"
  | .sub => "-"
  | .mul => "*"
  | .div => "/"
  | .mod => "%"
  | .custom symbol => symbol

/-- The operators that have names. -/
def Operator.names : List (Text × Operator) :=
  [("eq", .eq), ("ne", .ne), ("lt", .lt), ("le", .le), ("gt", .gt), ("ge", .ge), ("add", .add),
    ("sub", .sub), ("mul", .mul), ("div", .div), ("mod", .mod)]

/-- A SQL expression. -/
inductive Expr (F : Type) where
  /-- SQL text as it is. -/
  | raw (sql : Text)
  /-- A dotted name. -/
  | column (name : Text)
  /-- A string literal. -/
  | value (text : Text)
  /-- A numeric literal. -/
  | number (x : Binary)
  /-- A function call. -/
  | call (name : Text) (args : List (Expr F))
  /-- Two operands and the operator between them. -/
  | binary (op : Operator) (left right : Expr F)
  /-- A conjunction. -/
  | all (conditions : List (Expr F))
  /-- A concatenation of strings. -/
  | concat (parts : List (Expr F))
  /-- Whether a value lies between two bounds, both included. -/
  | between (value low high : Expr F)
  /-- Whether two operands differ, null counting as a value. -/
  | distinct (left right : Expr F)
  /-- A searched case: conditions and results, then the default. -/
  | case (branches : List (Expr F × Expr F)) (default : Option (Expr F))
  /-- A string without the given characters at its front. -/
  | ltrim (operand : Expr F) (chars : Text)
  /-- A timestamp literal, of the clock that shows the moment. -/
  | timestamp (t : Moment)
  /-- A date under a format. -/
  | formatted (subject : Expr F) (format : F)

namespace Sql

/-- Null-safe inequality of two rendered operands. -/
def distinct (kind : Kind) (l r : Text) : Text :=
  match kind.engine? with
  | some .mysql => "(not " ++ l ++ " <=> " ++ r ++ ")"
  | some .sqlite => "(" ++ l ++ " is not " ++ r ++ ")"
  | some .sqlserver =>
    "(" ++ l ++ " != " ++ r ++ " or (" ++ l ++ " is not null and " ++ r ++ " is null) or ("
      ++ l ++ " is null and " ++ r ++ " is not null))"
  | _ => "(" ++ l ++ " is distinct from " ++ r ++ ")"

/-- Concatenation of rendered strings. -/
def concat (kind : Kind) (parts : List Text) : Text :=
  match kind.engine? with
  | some .mysql | some .sqlserver => "(concat(" ++ Text.joinWith ", " parts ++ "))"
  | _ => "(" ++ Text.joinWith " || " parts ++ ")"

/-- A rendered string without the given characters at its front; no characters stand for
one space. -/
def ltrim (g : Grammar) (operand chars : Text) : Text :=
  let chars : Text := if chars.isEmpty then " " else chars
  match g.kind.engine? with
  | some .mysql => "trim(leading " ++ g.string chars ++ " from " ++ operand ++ ")"
  | _ => "ltrim(" ++ operand ++ ", " ++ g.string chars ++ ")"

/-- A timestamp literal. -/
def timestamp (g : Grammar) (t : Moment) : Text :=
  match g.kind.engine? with
  | some .mysql => "timestamp(" ++ g.string (t.clockText " ") ++ ")"
  | some .sqlite => g.string (t.clockText " ")
  | some .sqlserver => "cast(" ++ g.string (t.clockText "T") ++ " as datetime2)"
  | _ => "timestamp " ++ g.string (t.clockText " ")

end Sql

namespace Expr

mutual

/-- The SQL text of an expression, given that of a formatted date. -/
def text (g : Grammar) (format : F → Text → Text) : Expr F → Text
  | .raw sql => sql
  | .column name => g.path name
  | .value text => g.string text
  | .number x => x.plain
  | .call name args => name ++ "(" ++ Text.joinWith ", " (texts g format args) ++ ")"
  | .binary op left right =>
    "(" ++ text g format left ++ " " ++ op.symbol ++ " " ++ text g format right ++ ")"
  | .all conditions => "(" ++ Text.joinWith " and " (texts g format conditions) ++ ")"
  | .concat parts => Sql.concat g.kind (texts g format parts)
  | .between operand low high =>
    "(" ++ text g format operand ++ " between " ++ text g format low ++ " and "
      ++ text g format high ++ ")"
  | .distinct left right => Sql.distinct g.kind (text g format left) (text g format right)
  | .case branches default =>
    "(case" ++ branchTexts g format branches ++ defaultText g format default ++ " end)"
  | .ltrim operand chars => Sql.ltrim g (text g format operand) chars
  | .timestamp t => Sql.timestamp g t
  | .formatted subject f => format f (text g format subject)

/-- The SQL texts of a list of expressions. -/
def texts (g : Grammar) (format : F → Text → Text) : List (Expr F) → List Text
  | [] => []
  | e :: rest => text g format e :: texts g format rest

/-- The SQL text of the branches of a case. -/
def branchTexts (g : Grammar) (format : F → Text → Text) : List (Expr F × Expr F) → Text
  | [] => []
  | (condition, result) :: rest =>
    " when " ++ text g format condition ++ " then " ++ text g format result
      ++ branchTexts g format rest

/-- The SQL text of the default of a case. -/
def defaultText (g : Grammar) (format : F → Text → Text) : Option (Expr F) → Text
  | none => []
  | some e => " else " ++ text g format e

end

@[simp] theorem text_raw (g : Grammar) (format : F → Text → Text) (sql : Text) :
    (raw sql).text g format = sql := by
  rw [text]

mutual

/-- Whether an expression holds a formatted date. -/
def hasFormat : Expr F → Bool
  | .raw _ | .column _ | .value _ | .number _ | .timestamp _ => false
  | .call _ args => anyFormat args
  | .binary _ left right => hasFormat left || hasFormat right
  | .all conditions => anyFormat conditions
  | .concat parts => anyFormat parts
  | .between operand low high => hasFormat operand || hasFormat low || hasFormat high
  | .distinct left right => hasFormat left || hasFormat right
  | .case branches default => branchesFormat branches || defaultFormat default
  | .ltrim operand _ => hasFormat operand
  | .formatted _ _ => true

/-- Whether one of several expressions holds a formatted date. -/
def anyFormat : List (Expr F) → Bool
  | [] => false
  | e :: rest => hasFormat e || anyFormat rest

/-- Whether a branch of a case holds a formatted date. -/
def branchesFormat : List (Expr F × Expr F) → Bool
  | [] => false
  | (condition, result) :: rest =>
    hasFormat condition || hasFormat result || branchesFormat rest

/-- Whether the default of a case holds a formatted date. -/
def defaultFormat : Option (Expr F) → Bool
  | none => false
  | some e => hasFormat e

end

end Expr

end DatePattern
