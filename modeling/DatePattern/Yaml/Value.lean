import DatePattern.Calendar.Moment
import DatePattern.Number.Shortest

/-!
# Values

What a document says: null, truth values, numbers, texts, timestamps, lists and mappings.
Mappings keep the order of their keys, and a key is a text; other scalars become the text that
they are printed as.
-/

namespace DatePattern.Yaml

/-- A value of a document. -/
inductive Value where
  | null
  | bool (b : Bool)
  | int (n : Int)
  | float (x : Binary)
  | text (t : Text)
  | time (t : Moment)
  | list (items : List Value)
  | map (entries : List (Text × Value))

/-- The tag that the spelling of a value implies. -/
def Value.tag : Value → Text
  | .null => "!!null"
  | .bool _ => "!!bool"
  | .int _ => "!!int"
  | .float _ => "!!float"
  | .text _ => "!!str"
  | .time _ => "!!timestamp"
  | .list _ => "!!seq"
  | .map _ => "!!map"

/-! ### Keys -/

/-- The text of a moment as a key. -/
def momentKey (t : Moment) : Text :=
  let fraction : Text :=
    if t.nanos = 0 then []
    else "." ++ (Decimal.padLeft 9 (Decimal.ofNat t.nanos)).trimRightWhile (· = 0x30)
  let minutes := t.offset.natAbs / 60
  let offset : Text :=
    (if t.offset < 0 then "-" else "+" : Text) ++ Moment.two (minutes / 60)
      ++ Moment.two (minutes % 60)
  t.clockText " " ++ fraction ++ " " ++ offset ++ " "
    ++ (if t.offset = 0 then "UTC" else offset : Text)

/-- The text of a scalar value as a key. -/
def Value.key? : Value → Option Text
  | .null => some "<nil>"
  | .bool b => some (if b then "true" else "false")
  | .int n => some (Decimal.ofInt n)
  | .float x => some (x.general Binary.double)
  | .text t => some t
  | .time t => some (momentKey t)
  | .list _ => none
  | .map _ => none

/-! ### Pairs -/

/-- Sets a pair, in place of an earlier one. -/
def setPair (pair : Text × Value) : List (Text × Value) → List (Text × Value)
  | [] => [pair]
  | (key, value) :: rest =>
    if key = pair.1 then pair :: rest else (key, value) :: setPair pair rest

end DatePattern.Yaml
