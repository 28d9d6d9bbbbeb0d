import DatePattern.Calendar.Moment
import DatePattern.Log
import DatePattern.Number.Shortest

/-!
# Connections

A connection that answers queries from a script. It is unconnected until it is opened, and
stays connected when it is closed: a closed database refuses queries by itself. Queries and
closing are logged as long as there is a log.
-/

namespace DatePattern

/-! ## Scalars -/

/-- A value from a database. -/
inductive Scalar where
  | null
  | text (t : Text)
  | int (n : Int)
  /-- A double-precision number. -/
  | float (x : Binary)
  /-- A single-precision number. -/
  | single (x : Binary)
  | bool (b : Bool)
  | time (t : Moment)
  | list (items : List Text)
  deriving Repr

/-- The text of a scalar. -/
def Scalar.show : Scalar → Text
  | .null => "<nil>"
  | .text t => t
  | .int n => Decimal.ofInt n
  | .float x => x.plain
  | .single x => x.general Binary.single
  | .bool b => if b then "true" else "false"
  | .time t => t.clockText " "
  | .list items => "[" ++ Text.joinWith " " items ++ "]"

/-! ## Connections -/

/-- What a query comes to. -/
inductive Outcome where
  /-- A single value. -/
  | value (v : Scalar)
  /-- The database refuses with a text. -/
  | refused (reason : Text)
  /-- No row. -/
  | noRows
  /-- A row of some other number of columns. -/
  | columns (count : Int)
  deriving Repr

/-- Why a query gave no value. -/
inductive QueryError where
  /-- There is no database. -/
  | notConnected
  /-- The database gave no value. -/
  | failed (reason : Text)
  deriving DecidableEq, Repr

/-- The wording of a query error. -/
def QueryError.message : QueryError → Text
  | .notConnected => "database connection not established"
  | .failed reason => "failed to execute query: " ++ reason

namespace Outcome

/-- The value of an outcome as text, or none for null. -/
def result : Outcome → Except QueryError (Option Text)
  | .value .null => .ok none
  | .value v => .ok (some v.show)
  | .refused reason => .error (.failed reason)
  | .noRows => .error (.failed "sql: no rows in result set")
  | .columns count =>
    .error (.failed ("sql: expected " ++ Decimal.ofInt count
      ++ " destination arguments in Scan, not 1"))

/-- What a script without outcomes left comes to. -/
def exhausted : Outcome := .refused "script exhausted"

end Outcome

/-- A database that answers from a script. -/
structure Database where
  /-- The outcomes still to come. -/
  script : List Outcome
  /-- Whether it has been closed. -/
  closed : Bool := false

/-- A connection to a database. -/
structure Connection where
  /-- The database, once there has been one. -/
  database? : Option Database := none
  /-- Whether there is a log. -/
  logging : Bool := true

namespace Connection

/-- Whether there is a database. -/
def isConnected (c : Connection) : Bool := c.database?.isSome

/-- Connects to a database. -/
def openWith (c : Connection) (script : List Outcome) : Connection :=
  { c with database? := some { script } }

/-- Stops logging. -/
def dropLog (c : Connection) : Connection := { c with logging := false }

/-- Closes the database, if there is one; with the lines logged. -/
def close (c : Connection) : Connection × Text :=
  match c.database? with
  | none => (c, [])
  | some database =>
    ({ c with database? := some { database with closed := true } },
      if c.logging then Log.line .debug "closing database connection" [] else [])

/-- The line logged for a query; an empty query leaves its place empty. -/
def queryLine (sql : Text) : Text :=
  "level=DEBUG msg=query sql=" ++ (if sql.isEmpty then [] else Log.word sql : Text) ++ "\n"

/-- Runs a query; with the lines logged and the value. -/
def query (c : Connection) (sql : Text) : Connection × Text × Except QueryError (Option Text) :=
  match c.database? with
  | none => (c, [], .error .notConnected)
  | some database =>
    let log := if c.logging then queryLine sql else []
    if database.closed then (c, log, .error (.failed "sql: database is closed"))
    else
      match database.script with
      | [] => (c, log, Outcome.exhausted.result)
      | outcome :: rest =>
        ({ c with database? := some { database with script := rest } }, log, outcome.result)

end Connection

end DatePattern
