import DatePattern.Connection.Settings
import DatePattern.Number.Decimal

/-!
# Connection addresses

The text that names a database to each engine's driver. MySQL has a form of its own,
PostgreSQL takes keywords and values, SQL Server a URL. Percent escapes are upper-case
hexadecimal; each part of a URL leaves other punctuation unescaped.
-/

namespace DatePattern.Address

/-- Whether a byte is unreserved in every part of a URL. -/
def isUnreserved (b : UInt8) : Bool :=
  (0x41 ≤ b && b ≤ 0x5A) || (0x61 ≤ b && b ≤ 0x7A) || (0x30 ≤ b && b ≤ 0x39)
    || b = 0x2D || b = 0x5F || b = 0x2E || b = 0x7E

/-- The upper-case hexadecimal digit of a number below 16. -/
def hexDigit (n : Nat) : UInt8 :=
  if n < 10 then UInt8.ofNat (0x30 + n) else UInt8.ofNat (0x41 + (n - 10))

/-- A byte as a percent escape. -/
def percent (b : UInt8) : Text := [0x25, hexDigit (b.toNat / 16), hexDigit (b.toNat % 16)]

/-- Escapes all bytes but the unreserved ones and those of `kept`. -/
def escape (kept : Text) (text : Text) : Text :=
  text.flatMap fun b => if isUnreserved b || kept.contains b then [b] else percent b

/-- Escapes a segment of a path. -/
def pathSegment (text : Text) : Text := escape "$&+=:@" text

/-- Escapes a user name or password. -/
def userInfo (text : Text) : Text := escape "$&+,;=" text

/-- Escapes a host with its port. -/
def hostPart (text : Text) : Text := escape "!$&'()*+,;=:[]<>\"" text

/-- Escapes a key or value of a query, where a space is a plus sign. -/
def queryPart (text : Text) : Text :=
  text.flatMap fun b => if b = 0x20 then [0x2B] else if isUnreserved b then [b] else percent b

/-- A host and a port; a host with a colon stands in brackets. -/
def hostPort (host : Text) (port : Int) : Text :=
  (if host.contains 0x3A then "[" ++ host ++ "]" else host : Text) ++ ":" ++ Decimal.ofInt port

/-- The address of a MySQL database. Sessions run in UTC unless an option says otherwise. -/
def mysql (s : ConnectionSettings) : Text :=
  let credentials : Text :=
    if s.user.isEmpty then []
    else s.user ++ (if s.password.isEmpty then [] else ":" ++ s.password : Text) ++ "@"
  let session : List (Text × Text) := [("time_zone", "'+00:00'")]
  let parameters := (Text.sortBy Prod.fst (Bindings.bindAll s.options session)).map fun (name, value) =>
    name ++ "=" ++ queryPart value
  credentials ++ "tcp(" ++ hostPort s.hostOrLocal (s.portOr 3306) ++ ")/" ++ pathSegment s.database
    ++ "?" ++ Text.joinWith "&" parameters

/-- The keywords and values of a PostgreSQL database, in UTC. -/
def postgres (s : ConnectionSettings) : Text :=
  "host=" ++ s.hostOrLocal ++ " port=" ++ Decimal.ofInt (s.portOr 5432)
    ++ " dbname=" ++ s.database
    ++ " sslmode=" ++ (s.options.lookup (Text.ofString "sslmode")).getD "disable"
    ++ " timezone=UTC"
    ++ (if s.user.isEmpty then [] else " user=" ++ s.user : Text)
    ++ (if s.password.isEmpty then [] else " password=" ++ s.password : Text)

/-- The URL of a SQL Server database. -/
def sqlserver (s : ConnectionSettings) : Text :=
  let named : List (Text × Text) := if s.database.isEmpty then [] else [("database", s.database)]
  let parameters := (Text.sortBy Prod.fst (Bindings.bindAll s.options named)).map fun (name, value) =>
    queryPart name ++ "=" ++ queryPart value
  let credentials : Text :=
    if s.user.isEmpty then [] else userInfo s.user ++ ":" ++ userInfo s.password ++ "@"
  "sqlserver://" ++ credentials ++ hostPart (hostPort s.hostOrLocal (s.portOr 1433))
    ++ (if parameters.isEmpty then [] else "?" ++ Text.joinWith "&" parameters : Text)

end DatePattern.Address
