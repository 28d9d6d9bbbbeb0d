import DatePattern.Output.Json
import DatePattern.Output.Basic
import DatePattern.Output.Table
import DatePattern.Verify.Report

/-!
# Writing reports

A report as JSON, or as a table of targets followed by a table of the failures.
-/

namespace DatePattern

/-- The offset of a clock as `Z` or hours and minutes. -/
def Moment.zoneText (t : Moment) : Text :=
  if t.offset = 0 then "Z"
  else
    let minutes := Int.tdiv t.offset 60
    (if minutes < 0 then "-" else "+" : Text) ++ two (minutes.natAbs / 60) ++ ":"
      ++ two (minutes.natAbs % 60)

/-- The fraction of a second without zeros at its end, empty for a whole second. -/
def Moment.fractionText (t : Moment) : Text :=
  if t.nanos = 0 then []
  else "." ++ (Decimal.padLeft 9 (Decimal.ofNat t.nanos)).trimRightWhile (· = 0x30)

/-- Date, time and zone in one word. -/
def Moment.stampText (t : Moment) : Text := t.clockText "T" ++ t.fractionText ++ t.zoneText

namespace Verify

/-- Nanoseconds rounded to whole milliseconds, a half away from zero. -/
def milliseconds (nanos : Int) : Int :=
  let magnitude := (nanos.natAbs + 500000) / 1000000
  if nanos < 0 then -(magnitude : Int) else magnitude

/-- Seconds with a fraction of three digits, without zeros at its end. -/
def secondsText (millis : Nat) : Text :=
  let fraction := (Decimal.padLeft 3 (Decimal.ofNat (millis % 1000))).trimRightWhile (· = 0x30)
  Decimal.ofNat (millis / 1000) ++ (if fraction.isEmpty then [] else "." ++ fraction : Text) ++ "s"

/-- Milliseconds in hours, minutes and seconds. -/
def millisText (millis : Nat) : Text :=
  if millis = 0 then "0s"
  else if millis < 1000 then Decimal.ofNat millis ++ "ms"
  else if millis < 60000 then secondsText millis
  else if millis < 3600000 then
    Decimal.ofNat (millis / 60000) ++ "m" ++ secondsText (millis % 60000)
  else
    Decimal.ofNat (millis / 3600000) ++ "h" ++ Decimal.ofNat (millis / 60000 % 60) ++ "m"
      ++ secondsText (millis % 60000)

/-- A duration in nanoseconds, to the millisecond. -/
def durationText (nanos : Int) : Text :=
  let millis := milliseconds nanos
  (if millis < 0 then "-" else [] : Text) ++ millisText millis.natAbs

open Output (Json)

/-- A result as JSON. -/
def Result.json (result : Result) : Json :=
  Json.groups
    [[("format", .text result.format), ("instant", .text result.instant.stampText),
      ("sql", .text result.sql), ("want", .text result.want), ("got", .text result.got)],
      Json.flag "null" result.null, Json.optional "error" result.error,
      [("passed", .bool result.passed)]]

/-- The report of a target as JSON. -/
def TargetReport.json (target : TargetReport) : Json :=
  Json.groups
    [[("name", .text target.name), ("dialect", .text target.dialect)],
      Json.optional "error" target.error,
      [("results", Json.listOrNull (target.results.map Result.json))]]

/-- A report as JSON. -/
def Report.json (report : Report) : Json :=
  .record
    [("run_id", .text report.runId), ("started_at", .text report.started.stampText),
      ("duration", .int report.duration),
      ("targets", Json.listOrNull (report.targets.map TargetReport.json))]

/-- The row of a target: its counts, and why it was not reached. -/
def TargetReport.row (target : TargetReport) : List Text :=
  [target.name, target.dialect,
    Decimal.ofNat (target.results.length - target.failed.length),
    Decimal.ofNat target.failed.length,
    if target.error.isEmpty then "ok" else target.error]

/-- What a failed result came to. -/
def Result.outcome (result : Result) : Text :=
  if !result.error.isEmpty then "error: " ++ result.error
  else if result.null then "NULL"
  else result.got

/-- The rows of a target's failures. -/
def TargetReport.failureRows (target : TargetReport) : List (List Text) :=
  target.failed.map fun result =>
    [target.name, result.format, result.instant.clockText " ", result.want, result.outcome]

namespace Report

/-- The table of the targets. -/
def summary (report : Report) : Output.Table :=
  ⟨["Target", "Dialect", "Passed", "Failed", "Status"], report.targets.map TargetReport.row⟩

/-- The table of the failures. -/
def failures (report : Report) : Output.Table :=
  ⟨["Target", "Format", "Instant", "Want", "Got"],
    report.targets.flatMap TargetReport.failureRows⟩

/-- What was passed and failed, in one line with the run. -/
def verdict (report : Report) : Text :=
  let (passed, failed) := report.counts
  let mark := if report.isOk then Output.successMark else Output.failureMark
  let tally : Text := Decimal.ofNat passed ++ " passed, " ++ Decimal.ofNat failed ++ " failed"
  let run : Text := "(run " ++ report.runId ++ ", " ++ durationText report.duration ++ ")"
  mark ++ " " ++ Output.styled tally ++ " " ++ Output.styled run

/-- A report in a shape. -/
def render (report : Report) (shape : Output.Shape) : Text :=
  let hasFailures := !report.failures.rows.isEmpty
  match shape with
  | .json => report.json.document
  | .markdown =>
    Text.unlines
      [Output.header 1 "Verification", [], Output.keyValue "Run" report.runId,
        Output.keyValue "Passed" (Decimal.ofNat report.counts.1),
        Output.keyValue "Failed" (Decimal.ofNat report.counts.2), []]
      ++ report.summary.markdown
      ++ (if hasFailures then
            Text.unlines [[], Output.header 2 "Failures", []] ++ report.failures.markdown
          else [] : Text)
  | .text =>
    report.summary.text ++ (if hasFailures then "\n" ++ report.failures.text else [] : Text)
      ++ "\n" ++ report.verdict ++ "\n"

end Report

end Verify

end DatePattern
