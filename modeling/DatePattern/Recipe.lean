import DatePattern.Sql.Expr
import DatePattern.Text.Quoted

/-!
# Recipes

How an engine produces a format character that its own date function lacks: by a template, which
is SQL text with places for the subject, or by a synthesis, which builds an expression around the
subject.
-/

namespace DatePattern

/-!
## Templates

A template is SQL text with tags in braces. The tag `expr` stands for the subject; every
other tag is copied with its braces. A tag starts at an opening brace and ends at the next
closing one, so a template is only well formed when no opening brace is left without one.
-/

namespace Template

/-- The text behind an opening brace that is never closed. `opened` is the text behind the
brace that is open so far. -/
def unclosedFrom : (opened : Option Text) → Text → Option Text
  | opened, [] => opened
  | none, b :: rest =>
    if b = 0x7B then unclosedFrom (some rest) rest else unclosedFrom none rest
  | some behind, b :: rest =>
    if b = 0x7D then unclosedFrom none rest else unclosedFrom (some behind) rest

/-- The text behind the opening brace of a template that is never closed. -/
def unclosed? (source : Text) : Option Text := unclosedFrom none source

/-- The text of one tag. -/
def tagText (subject tag : Text) : Text :=
  if tag = "expr" then subject else "\x7b" ++ tag ++ "\x7d"

/-- A template's text with the subject in its places. `tag` is what has been read of the tag
that is open so far. -/
def renderFrom (subject : Text) : (tag : Option Text) → Text → Text
  | none, [] => []
  | some tag, [] => "\x7b" ++ tag
  | none, b :: rest =>
    if b = 0x7B then renderFrom subject (some []) rest
    else b :: renderFrom subject none rest
  | some tag, b :: rest =>
    if b = 0x7D then tagText subject tag ++ renderFrom subject none rest
    else renderFrom subject (some (tag ++ [b])) rest

end Template

/-- SQL text around a subject. -/
structure Template where
  /-- The text with its tags. -/
  source : Text
  /-- Every opening brace is closed. -/
  closed : Template.unclosed? source = none

/-- Why a text is not a template. -/
inductive TemplateError where
  /-- An opening brace is never closed. -/
  | unclosed (source behind : Text)
  deriving DecidableEq, Repr

/-- The wording of a template error. -/
def TemplateError.message : TemplateError → Text
  | .unclosed source behind =>
    "Cannot find end tag=\"\x7d\" in the template=" ++ source.quoted ++ " starting from "
      ++ behind.quoted

namespace Template

instance : DecidableEq Template := fun s t =>
  if h : s.source = t.source then .isTrue (by cases s; cases t; simp_all)
  else .isFalse (fun same => h (congrArg source same))

/-- The template of a source text. -/
def parse (source : Text) : Except TemplateError Template :=
  match h : unclosed? source with
  | none => .ok ⟨source, h⟩
  | some behind => .error (.unclosed source behind)

/-- A template's text with the subject in its places. -/
def render (template : Template) (subject : Text) : Text :=
  renderFrom subject none template.source

/-- How often the placeholder occurs in the source. -/
def placeholders (template : Template) : Nat :=
  template.source.occurrences "\x7bexpr\x7d"

end Template

/-!
## Syntheses

Format characters that need more than a template: names found by a case over a number, clock
hours of the half day, numbers without their padding.
-/

/-- An expression built around a subject. -/
inductive Synthesis where
  /-- A name for the half of the day, by the function `hour`. -/
  | hourMeridiem (am pm : Text)
  /-- A name for the half of the day, by the function `datepart`. -/
  | partMeridiem (am pm : Text)
  /-- A name for the half of the day, by the text of the hour. -/
  | clockMeridiem (am pm : Text)
  /-- The name that stands beside the value of a specifier. -/
  | named (specifier : Text) (names : List (Text × Text))
  /-- The value of a specifier without leading zeros. -/
  | unpadded (specifier : Text)
  /-- The hour of the half day, 1 to 12. -/
  | hourOfTwelve
  /-- The hour of the half day with two digits. -/
  | paddedHourOfTwelve
  deriving DecidableEq, Repr

namespace Synthesis

/-- A short description. -/
def name : Synthesis → Text
  | .hourMeridiem am pm => "case hour < 12 then " ++ am ++ " else " ++ pm
  | .partMeridiem am pm => "case hour < 12 then " ++ am ++ " else " ++ pm
  | .clockMeridiem _ _ => "case %H < 12"
  | .named specifier _ => "case on " ++ specifier
  | .unpadded specifier => "ltrim " ++ specifier
  | .hourOfTwelve => "case on %H"
  | .paddedHourOfTwelve => "case on %H"

variable {F : Type}

/-- Twelve. -/
def twelve : Expr F := .number (.finite false 12 0)

/-- The value of one specifier of `strftime`, a text. -/
def strftime (specifier : Text) (subject : Expr F) : Expr F :=
  .call "strftime" [.value specifier, subject]

/-- One of two names, by whether the hour is before noon. -/
def meridiem (hour noon : Expr F) (am pm : Text) : Expr F :=
  .case [(.binary .lt hour noon, .value am)] (some (.value pm))

/-- The expression around a subject. -/
def build (subject : Expr F) : Synthesis → Expr F
  | .hourMeridiem am pm => meridiem (.call "hour" [subject]) twelve am pm
  | .partMeridiem am pm => meridiem (.call "datepart" [.raw "hour", subject]) twelve am pm
  | .clockMeridiem am pm => meridiem (strftime "%H" subject) (.value "12") am pm
  | .named specifier names =>
    .case (names.map fun (key, name) =>
      (.binary .eq (strftime specifier subject) (.value key), .value name)) none
  | .unpadded specifier => .ltrim (strftime specifier subject) "0"
  | .hourOfTwelve =>
    let hour := strftime "%H" subject
    .case
      [(.binary .eq hour (.value "00"), .value "12"),
        (.binary .gt hour (.value "12"), .binary .sub hour twelve)]
      (some (.ltrim hour "0"))
  | .paddedHourOfTwelve =>
    let hour := strftime "%H" subject
    .case
      [(.all [.binary .gt hour (.value "00"), .binary .le hour (.value "12")], hour),
        (.binary .eq hour (.value "00"), .value "12")]
      (some (.call "printf" [.value "%02d", .binary .sub hour twelve]))

/-- The SQL of the expression around a subject's SQL. Any subject with that SQL gives the same. -/
def sql (g : Grammar) (subject : Text) (synthesis : Synthesis) : Text :=
  (synthesis.build (.raw subject : Expr Empty)).text g fun impossible => nomatch impossible

end Synthesis

/-! ## Recipes -/

/-- A way to produce a format character from generic SQL. -/
inductive Recipe where
  | template (t : Template)
  | synthesis (s : Synthesis)
  deriving DecidableEq

namespace Recipe

/-- A short description: the template's source or the synthesis' name. -/
def describe : Recipe → Text
  | .template t => t.source
  | .synthesis s => s.name

/-- The SQL of a recipe around a subject's SQL. -/
def sql (g : Grammar) (subject : Text) : Recipe → Text
  | .template t => t.render subject
  | .synthesis s => s.sql g subject

end Recipe

end DatePattern
