import DatePattern.Proofs.Text.Split
import DatePattern.Recipe

/-!
# The pieces of a template

A template is rendered in one pass that copies text and puts the subject in the place of its
tag. What comes out is the text between the tags, with the subject between neighbours:

- `Template.pieces`: that text, cut where the subject goes;
- `Template.render_eq`: rendering joins the pieces with the subject.

The pieces do not depend on the subject, so whatever is checked of them once holds for every
subject.
-/

namespace DatePattern

namespace Template

/-- Puts a text in front of the first piece. -/
def atFront (text : Text) : List Text → List Text
  | [] => [text]
  | piece :: pieces => (text ++ piece) :: pieces

/-- The pieces of a template's text. `tag` is what has been read of the tag that is open. -/
def piecesFrom : (tag : Option Text) → Text → List Text
  | none, [] => [[]]
  | some tag, [] => [0x7B :: tag]
  | none, b :: rest =>
    if b = 0x7B then piecesFrom (some []) rest else atFront [b] (piecesFrom none rest)
  | some tag, b :: rest =>
    if b = 0x7D then
      if tag = "expr" then [] :: piecesFrom none rest
      else atFront ("\x7b" ++ tag ++ "\x7d") (piecesFrom none rest)
    else piecesFrom (some (tag ++ [b])) rest

/-- The text of a template, cut where the subject goes. -/
def pieces (template : Template) : List Text := piecesFrom none template.source

theorem atFront_ne_nil (text : Text) (pieces : List Text) : atFront text pieces ≠ [] := by
  cases pieces <;> exact List.cons_ne_nil _ _

theorem piecesFrom_ne_nil (tag : Option Text) (source : Text) : piecesFrom tag source ≠ [] := by
  induction tag, source using piecesFrom.induct with
  | case1 => exact List.cons_ne_nil _ _
  | case2 tag => exact List.cons_ne_nil _ _
  | case3 rest ih =>
    rw [piecesFrom, if_pos rfl]
    exact ih
  | case4 b rest hb ih =>
    rw [piecesFrom, if_neg hb]
    exact atFront_ne_nil _ _
  | case5 rest ih =>
    rw [piecesFrom, if_pos rfl, if_pos rfl]
    exact List.cons_ne_nil _ _
  | case6 tag rest ht ih =>
    rw [piecesFrom, if_pos rfl, if_neg ht]
    exact atFront_ne_nil _ _
  | case7 tag b rest hb ih =>
    rw [piecesFrom, if_neg hb]
    exact ih

theorem joinWith_atFront (subject text : Text) {pieces : List Text} (h : pieces ≠ []) :
    Text.joinWith subject (atFront text pieces) = text ++ Text.joinWith subject pieces := by
  match pieces, h with
  | piece :: rest, _ => rw [atFront, Text.joinWith_cons, Text.joinWith_cons, List.append_assoc]

theorem joinWith_nil_cons (subject : Text) {pieces : List Text} (h : pieces ≠ []) :
    Text.joinWith subject ([] :: pieces) = subject ++ Text.joinWith subject pieces := by
  match pieces, h with
  | piece :: rest, _ => rfl

theorem renderFrom_eq (subject : Text) (tag : Option Text) (source : Text) :
    renderFrom subject tag source = Text.joinWith subject (piecesFrom tag source) := by
  induction tag, source using piecesFrom.induct with
  | case1 => rfl
  | case2 tag => rfl
  | case3 rest ih =>
    rw [renderFrom, if_pos rfl, piecesFrom, if_pos rfl]
    exact ih
  | case4 b rest hb ih =>
    rw [renderFrom, if_neg hb, piecesFrom, if_neg hb,
      joinWith_atFront _ _ (piecesFrom_ne_nil none rest), ih]
    rfl
  | case5 rest ih =>
    rw [renderFrom, if_pos rfl, piecesFrom, if_pos rfl, if_pos rfl,
      joinWith_nil_cons _ (piecesFrom_ne_nil none rest), ih]
    rfl
  | case6 tag rest ht ih =>
    rw [renderFrom, if_pos rfl, piecesFrom, if_pos rfl, if_neg ht,
      joinWith_atFront _ _ (piecesFrom_ne_nil none rest), ih, tagText, if_neg ht]
  | case7 tag b rest hb ih =>
    rw [renderFrom, if_neg hb, piecesFrom, if_neg hb]
    exact ih

/-- Rendering puts the subject between the pieces. -/
theorem render_eq (template : Template) (subject : Text) :
    template.render subject = Text.joinWith subject template.pieces :=
  renderFrom_eq subject none template.source

end Template

end DatePattern
