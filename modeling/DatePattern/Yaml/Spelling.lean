import DatePattern.Text.Encoding
import DatePattern.Yaml.Cursor
import DatePattern.Yaml.Value

/-!
# Spellings

What a scalar stands for. A plain scalar without a tag goes by its spelling: null, a truth
value, a number, a timestamp, or else a text. A tag of the standard asks for a spelling that
fits it; under any other tag a scalar is a text.
-/

namespace DatePattern.Yaml

/-! ### Numbers by their spelling -/

/-- The value of a digit in bases up to 16. -/
def digitOf? (b : UInt8) : Option Nat :=
  if 0x30 ≤ b && b ≤ 0x39 then some (b.toNat - 0x30)
  else if 0x61 ≤ b && b ≤ 0x66 then some (b.toNat - 0x57)
  else if 0x41 ≤ b && b ≤ 0x46 then some (b.toNat - 0x37)
  else none

/-- The number of a run of digits in a base. -/
def digitsFrom (base : Nat) (value : Nat) : Text → Option Nat
  | [] => some value
  | b :: rest =>
    match digitOf? b with
    | some d => if d < base then digitsFrom base (value * base + d) rest else none
    | none => none

/-- The number of a non-empty run of digits in a base. -/
def digitsIn (base : Nat) (text : Text) : Option Nat :=
  if text.isEmpty then none else digitsFrom base 0 text

/-- A number of at most 64 bits with a sign. -/
def inRange? (negative : Bool) (n : Nat) : Option Int :=
  if negative then if n ≤ Nat.pow 2 63 then some (-(n : Int)) else none
  else if n < Nat.pow 2 63 then some n
  else none

/-- A whole number in a base, with or without a sign. -/
def signedIn (base : Nat) (text : Text) : Option Int :=
  let (negative, digits) := Decimal.splitSign text
  (digitsIn base digits).bind (inRange? negative)

/-- A whole number with a base mark: `0x`, `0o`, `0b`, or a zero for octal. -/
def magnitude? (text : Text) : Option Nat :=
  match text with
  | 0x30 :: mark :: rest =>
    if mark = 0x78 || mark = 0x58 then digitsIn 16 rest
    else if mark = 0x6F || mark = 0x4F then digitsIn 8 rest
    else if mark = 0x62 || mark = 0x42 then digitsIn 2 rest
    else digitsIn 8 (mark :: rest)
  | _ => digitsIn 10 text

/-- A whole number of at most 64 bits, with or without a sign. -/
def wholeNumber? (text : Text) : Option Int :=
  let (negative, digits) := Decimal.splitSign text
  let signed := text.head? == some 0x2B || text.head? == some 0x2D
  match magnitude? digits with
  | none => none
  | some n => if !signed && n < Nat.pow 2 64 then some n else inRange? negative n

/-- A whole number in a base behind its lower-case mark, where a sign may follow the mark. -/
def markedNumber? : Text → Option Int
  | 0x30 :: 0x62 :: rest => signedIn 2 rest
  | 0x30 :: 0x6F :: rest => signedIn 8 rest
  | _ => none

/-- Splits an exponent off a decimal number: the text before the mark and the exponent. -/
def splitPower (text : Text) : Option (Text × Int) :=
  let isMark (b : UInt8) : Bool := b = 0x65 || b = 0x45
  match text.dropWhile (!isMark ·) with
  | [] => some (text, 0)
  | _ :: power => (Decimal.toInt? power).map fun n => (text.takeWhile (!isMark ·), n)

/-- A decimal number: digits with an optional point and an optional exponent. A number too
large for a double is none. -/
def decimalNumber? (text : Text) : Option Binary := do
  let (negative, unsigned) := Decimal.splitSign text
  let (mantissa, power) ← splitPower unsigned
  let (whole, fraction) ←
    match mantissa.splitAtByte 0x2E with
    | [whole] => some (whole, [])
    | [whole, fraction] => some (whole, fraction)
    | _ => none
  let digits ← Decimal.toNat? (whole ++ fraction)
  match Binary.ofDecimal Binary.double negative digits (power - fraction.length) with
  | .infinite _ => none
  | x => some x

/-- Whether every underscore stands between two digits. -/
def separatesDigits : (before : Bool) → Text → Bool
  | _, [] => true
  | before, b :: rest =>
    if b = 0x5F then before && rest.head?.any Decimal.isDigit && separatesDigits false rest
    else separatesDigits (Decimal.isDigit b) rest

/-- A decimal number that starts with its point; underscores may separate its digits. -/
def pointNumber? (text : Text) : Option Binary :=
  if separatesDigits false text then decimalNumber? (text.filter (· != 0x5F)) else none

/-! ### Timestamps -/

/-- Reads one or two digits. -/
def twoDigits? : Text → Option (Nat × Text)
  | a :: b :: rest =>
    if Decimal.isDigit a then
      if Decimal.isDigit b then some (Decimal.valueFrom 0 [a, b], rest)
      else some (Decimal.digitValue a, b :: rest)
    else none
  | [a] => if Decimal.isDigit a then some (Decimal.digitValue a, []) else none
  | [] => none

/-- Reads a given byte. -/
def mark? (b : UInt8) : Text → Option Text
  | c :: rest => if c = b then some rest else none
  | [] => none

/-- Reads `YYYY-M-D`. -/
def date? (text : Text) : Option (Date × Text) := do
  let year ← Decimal.toNat? (text.take 4)
  if text.length < 4 then none
  let rest ← mark? 0x2D (text.drop 4)
  let (month, rest) ← twoDigits? rest
  let rest ← mark? 0x2D rest
  let (day, rest) ← twoDigits? rest
  if 1 ≤ month && month ≤ 12 && 1 ≤ day && day ≤ Date.monthLength year month then
    return (⟨year, month, day⟩, rest)
  else none

/-- Reads `H:M:S` with an optional fraction: seconds of the day and nanoseconds. -/
def timeOfDay? (text : Text) : Option (Nat × Nat × Text) := do
  let (hour, rest) ← twoDigits? text
  let rest ← mark? 0x3A rest
  let (minute, rest) ← twoDigits? rest
  let rest ← mark? 0x3A rest
  let (second, rest) ← twoDigits? rest
  if 24 ≤ hour || 60 ≤ minute || 60 ≤ second then none
  let seconds := hour * 3600 + minute * 60 + second
  match rest with
  | point :: d :: more =>
    if (point = 0x2E || point = 0x2C) && Decimal.isDigit d then
      let fraction := (d :: more).takeWhile Decimal.isDigit
      let nanos := Decimal.valueFrom 0 ((fraction ++ Text.repeated 9 0x30).take 9)
      return (seconds, nanos, (d :: more).dropWhile Decimal.isDigit)
    else return (seconds, 0, rest)
  | _ => return (seconds, 0, rest)

/-- Reads a zone: `Z`, or a sign, hours and minutes. -/
def zone? : Text → Option Int
  | [0x5A] => some 0
  | [sign, a, b, 0x3A, c, d] => do
    let hours ← Decimal.toNat? [a, b]
    let minutes ← Decimal.toNat? [c, d]
    if 24 < hours || 60 < minutes then none
    else if sign = 0x2B then some ((hours * 3600 + minutes * 60 : Nat) : Int)
    else if sign = 0x2D then some (-((hours * 3600 + minutes * 60 : Nat) : Int))
    else none
  | _ => none

/-- Reads a timestamp: a date, or a date and a time with a `T` and a zone or with spaces and
no zone. -/
def timestamp? (text : Text) : Option Moment := do
  let (date, rest) ← date? text
  let day := date.dayNumber * 86400
  match rest with
  | [] => return ⟨day, 0, .utc⟩
  | mark :: more =>
    if mark = 0x54 || mark = 0x74 then
      let (seconds, nanos, rest) ← timeOfDay? more
      let offset ← zone? rest
      return ⟨day + seconds - offset, nanos, .fixed offset⟩
    else if mark = 0x20 then
      let (seconds, nanos, rest) ← timeOfDay? (more.dropWhile (· = 0x20))
      if rest.isEmpty then return ⟨day + seconds, nanos, .utc⟩ else none
    else none

/-! ### Scalars -/

/-- The number of a scalar that starts with a digit or a sign. Underscores do not count, except
in a timestamp. -/
def number? (tag text : Text) : Option Value :=
  let stamp := if tag.isEmpty || tag = "!!timestamp" then timestamp? text else none
  match stamp with
  | some t => some (.time t)
  | none =>
    let plain := text.filter (· != 0x5F)
    match wholeNumber? plain, decimalNumber? plain with
    | some n, _ => some (.int n)
    | none, some x => some (.float x)
    | none, none => (markedNumber? plain).map .int

/-- The value of a scalar by its spelling. -/
def spelled (tag text : Text) : Value :=
  if [([] : Text), "~", "null", "Null", "NULL"].contains text then .null
  else if [("true" : Text), "True", "TRUE"].contains text then .bool true
  else if [("false" : Text), "False", "FALSE"].contains text then .bool false
  else if [(".nan" : Text), ".NaN", ".NAN"].contains text then .float .nan
  else if [(".inf" : Text), ".Inf", ".INF", "+.inf", "+.Inf", "+.INF"].contains text then
    .float (.infinite false)
  else if [("-.inf" : Text), "-.Inf", "-.INF"].contains text then .float (.infinite true)
  else
    match text with
    | b :: _ =>
      if b = 0x2E then ((pointNumber? text).map Value.float).getD (.text text)
      else if Decimal.isDigit b || b = 0x2B || b = 0x2D then (number? tag text).getD (.text text)
      else .text text
    | [] => .null

/-- The tags that ask for a spelling. -/
def spellingTags : List Text := ["!!bool", "!!int", "!!float", "!!null", "!!timestamp"]

/-- The value of a scalar under a tag that asks for a spelling. A whole number of 64 bits with a
sign may stand for a float. -/
def taggedValue (tag text : Text) : Except Fault Value :=
  match spelled tag text with
  | .int n =>
    if tag = "!!int" then .ok (.int n)
    else if tag = "!!float" && n < Nat.pow 2 63 then
      .ok (.float (Binary.ofDecimal Binary.double (decide (n < 0)) n.natAbs 0))
    else .error .mismatch
  | value => if tag = value.tag then .ok value else .error .mismatch

/-- The value of a scalar. The tag `!` counts as none. -/
def scalarValue (tag : Text) (plain : Bool) (text : Text) : Except Fault Value :=
  if tag.isEmpty || tag = "!" then .ok (if plain then spelled [] text else .text text)
  else if tag = "!!binary" then
    match text.ofBase64? with
    | some bytes => .ok (.text bytes)
    | none => .error .mismatch
  else if spellingTags.contains tag then taggedValue tag text
  else .ok (.text text)

/-- The text of a scalar where only a text will do: as it is written, and none for null. -/
def scalarText (tag : Text) (plain : Bool) (text : Text) : Except Fault (Option Text) := do
  match ← scalarValue tag plain text with
  | .null => return none
  | .text t => return some t
  | _ => return some text

end DatePattern.Yaml
