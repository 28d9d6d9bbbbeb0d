import DatePattern.Proofs.Text.Replace
import DatePattern.Recipe

/-!
# Which placeholders are filled

Two parts of a template know what a placeholder is. Rendering goes from an opening brace to the
next closing one and fills the tag `expr`; counting looks for `{expr}` as a piece of text. They
differ where a brace that was opened before hides a placeholder: in `{{expr}}` the tag is `{expr`.

- `Template.Closes`: every opening brace has a closing one behind it; `Template.Parts` takes such a
  source apart as rendering does, and tells a tag that hides a placeholder from one that does not;
- `Template.Exposed`: no placeholder is hidden;
- `Template.exists_tally`: how many are filled and how many are hidden, and what this does to the
  length;
- `Template.placeholders_filled_iff`: rendering fills every placeholder, and the count is the number
  of those filled, exactly when none is hidden.
-/

namespace DatePattern

namespace Template

/-! ## Placeholders -/

/-- The placeholder up to its closing brace. -/
def opening : Text := "\x7bexpr"

/-- The text that stands for the subject. -/
def placeholder : Text := "\x7bexpr\x7d"

theorem placeholder_append (rest : Text) : placeholder ++ rest = opening ++ 0x7D :: rest := rfl

theorem close_notMem_brace {name : Text} (h : 0x7D ∉ name) : 0x7D ∉ 0x7B :: name := by
  intro mem
  exact (List.mem_cons.mp mem).elim (by decide) h

theorem close_notMem_opening {front : Text} (h : 0x7D ∉ front) : 0x7D ∉ front ++ opening := by
  intro mem
  exact (List.mem_append.mp mem).elim h (by decide)

/-- What stands before the first closing brace of a text is determined by the text. -/
theorem eq_of_append_close {word other rest more : Text} (hw : 0x7D ∉ word) (ho : 0x7D ∉ other)
    (h : word ++ 0x7D :: rest = other ++ 0x7D :: more) : word = other := by
  induction word generalizing other with
  | nil =>
    cases other with
    | nil => rfl
    | cons c other =>
      obtain ⟨rfl, -⟩ := List.cons.inj h
      exact absurd List.mem_cons_self ho
  | cons b word ih =>
    cases other with
    | nil =>
      obtain ⟨rfl, -⟩ := List.cons.inj h
      exact absurd List.mem_cons_self hw
    | cons c other =>
      obtain ⟨rfl, tail⟩ := List.cons.inj h
      have hw' : 0x7D ∉ word := fun mem => hw (List.mem_cons_of_mem _ mem)
      have ho' : 0x7D ∉ other := fun mem => ho (List.mem_cons_of_mem _ mem)
      rw [ih hw' ho' tail]

/-- A placeholder that begins before the first closing brace ends with that brace. -/
theorem placeholder_prefix_iff {word rest : Text} (hw : 0x7D ∉ word) :
    placeholder <+: word ++ 0x7D :: rest ↔ word = opening := by
  constructor
  · rintro ⟨more, h⟩
    rw [placeholder_append] at h
    exact (eq_of_append_close (by decide) hw h).symm
  · rintro rfl
    exact ⟨rest, rfl⟩

theorem not_placeholder_at {b : UInt8} (h : b ≠ 0x7B) (rest : Text) :
    ¬ placeholder <+: b :: rest := by
  rintro ⟨more, front⟩
  exact h (List.cons.inj front).1.symm

/-- Text up to a closing brace that does not end a placeholder is passed over. -/
theorem replace_until (subject rest : Text) {word : Text} (hw : 0x7D ∉ word)
    (other : ¬ opening <:+ word) :
    Text.replace (word ++ 0x7D :: rest) placeholder subject
        = word ++ 0x7D :: Text.replace rest placeholder subject ∧
      Text.occurrences (word ++ 0x7D :: rest) placeholder
        = Text.occurrences rest placeholder := by
  induction word with
  | nil =>
    have none := not_placeholder_at (b := 0x7D) (by decide) rest
    exact ⟨Text.replace_cons subject none, Text.occurrences_cons none⟩
  | cons b word ih =>
    have none : ¬ placeholder <+: b :: (word ++ 0x7D :: rest) := by
      intro front
      exact other ((placeholder_prefix_iff hw).mp front ▸ List.suffix_refl _)
    obtain ⟨replaced, counted⟩ := ih (fun mem => hw (List.mem_cons_of_mem _ mem))
      (fun ends => other (ends.trans (List.suffix_cons b word)))
    rw [List.cons_append, Text.replace_cons subject none, Text.occurrences_cons none, replaced]
    exact ⟨rfl, counted⟩

/-- The first placeholder behind text without a closing brace. -/
theorem replace_behind (subject rest : Text) {front : Text} (hf : 0x7D ∉ front) :
    Text.replace (front ++ (placeholder ++ rest)) placeholder subject
        = front ++ (subject ++ Text.replace rest placeholder subject) ∧
      Text.occurrences (front ++ (placeholder ++ rest)) placeholder
        = 1 + Text.occurrences rest placeholder := by
  induction front with
  | nil =>
    exact ⟨Text.replace_append subject rest (by decide), Text.occurrences_append rest (by decide)⟩
  | cons b front ih =>
    have none : ¬ placeholder <+: b :: (front ++ (placeholder ++ rest)) := by
      have same :
          b :: (front ++ (placeholder ++ rest)) = b :: front ++ opening ++ 0x7D :: rest := by
        rw [placeholder_append, List.append_assoc, List.cons_append]
      rw [same, placeholder_prefix_iff (close_notMem_opening hf)]
      intro short
      have := congrArg List.length short
      rw [List.length_append, List.length_cons] at this
      omega
    obtain ⟨replaced, counted⟩ := ih fun mem => hf (List.mem_cons_of_mem _ mem)
    rw [List.cons_append, Text.replace_cons subject none, Text.occurrences_cons none, replaced]
    exact ⟨rfl, counted⟩

/-! ## Sources that close -/

/-- Every opening brace has a closing one behind it. -/
def Closes (source : Text) : Prop :=
  ∀ before after, source = before ++ 0x7B :: after → 0x7D ∈ after

theorem closes_nil : Closes [] := by
  intro before after h
  exact absurd h.symm (List.append_ne_nil_of_right_ne_nil before (List.cons_ne_nil _ _))

theorem closes_cons {b : UInt8} (h : b ≠ 0x7B) (rest : Text) :
    Closes (b :: rest) ↔ Closes rest := by
  constructor
  · rintro closes before after rfl
    exact closes (b :: before) after rfl
  · intro closes before after split
    cases before with
    | nil => exact absurd (List.cons.inj split).1 h
    | cons c before => exact closes before after (List.cons.inj split).2

theorem closes_tag (name rest : Text) :
    Closes (0x7B :: name ++ 0x7D :: rest) ↔ Closes rest := by
  constructor
  · rintro closes before after rfl
    refine closes (0x7B :: name ++ 0x7D :: before) after ?_
    rw [List.append_assoc]
    rfl
  · intro closes before after split
    -- the brace stands behind the tag, or the end of the tag stands behind the brace
    obtain ⟨passed, rfl, left⟩ | ⟨inside, -, left⟩ := List.append_eq_append_iff.mp split
    · cases passed with
      | nil => exact absurd (List.cons.inj left).1 (by decide)
      | cons c passed => exact closes passed after (List.cons.inj left).2
    · cases inside with
      | nil => exact absurd (List.cons.inj left).1 (by decide)
      | cons c inside =>
        rw [(List.cons.inj left).2]
        exact List.mem_append_right _ List.mem_cons_self

/-- A source taken apart as rendering does: bytes outside tags, placeholders, tags that hold none,
and tags in which one is hidden. -/
inductive Parts : Text → Prop where
  | nil : Parts []
  | byte {b : UInt8} {rest : Text} : b ≠ 0x7B → Parts rest → Parts (b :: rest)
  | filled {rest : Text} : Parts rest → Parts (placeholder ++ rest)
  | tag {name rest : Text} : 0x7D ∉ name → ¬ opening <:+ 0x7B :: name → Parts rest →
      Parts (0x7B :: name ++ 0x7D :: rest)
  | hidden {front rest : Text} : 0x7D ∉ front → Parts rest →
      Parts (0x7B :: front ++ (placeholder ++ rest))

/-- A source that closes can be taken apart. By induction on the number of bytes, since a tag takes
several. -/
theorem Closes.parts {source : Text} (closes : Closes source) : Parts source := by
  induction hn : source.length using Nat.strong_induction_on generalizing source with
  | _ n ih =>
    cases source with
    | nil => exact .nil
    | cons b rest =>
      by_cases brace : b = 0x7B
      · subst brace
        -- the tag goes up to the first closing brace, and it holds a placeholder if it ends in one
        obtain ⟨name, more, rfl, hname⟩ := List.eq_append_cons_of_mem (closes [] rest rfl)
        have shorter : more.length < n := by
          rw [← hn, List.length_cons, List.length_append, List.length_cons]
          omega
        have behind := ih _ shorter ((closes_tag name more).mp closes) rfl
        by_cases ends : opening <:+ 0x7B :: name
        · obtain ⟨front, split⟩ := ends
          have whole : 0x7B :: (name ++ 0x7D :: more) = front ++ (placeholder ++ more) := by
            rw [placeholder_append, ← List.append_assoc, split]
            rfl
          rw [whole]
          cases front with
          | nil => exact .filled behind
          | cons c front =>
            obtain ⟨rfl, rfl⟩ := List.cons.inj split
            exact .hidden (fun mem => hname (List.mem_append_left _ mem)) behind
        · exact .tag hname ends behind
      · have shorter : rest.length < n := by
          rw [← hn]
          exact Nat.lt_add_one _
        exact .byte brace (ih _ shorter ((closes_cons brace rest).mp closes) rfl)

/-! ## Rendering -/

section Rendering

variable (subject : Text)

theorem renderFrom_byte {b : UInt8} (h : b ≠ 0x7B) (rest : Text) :
    renderFrom subject none (b :: rest) = b :: renderFrom subject none rest := by
  rw [renderFrom, if_neg h]

theorem renderFrom_some (tag rest : Text) {name : Text} (h : 0x7D ∉ name) :
    renderFrom subject (some tag) (name ++ 0x7D :: rest)
      = tagText subject (tag ++ name) ++ renderFrom subject none rest := by
  induction name generalizing tag with
  | nil => rw [List.nil_append, renderFrom, if_pos rfl, List.append_nil]
  | cons b name ih =>
    obtain ⟨hb, hname⟩ := not_or.mp (mt List.mem_cons.mpr h)
    rw [List.cons_append, renderFrom, if_neg (Ne.symm hb), ih (tag ++ [b]) hname, List.append_assoc]
    rfl

theorem renderFrom_tag (rest : Text) {name : Text} (h : 0x7D ∉ name) :
    renderFrom subject none (0x7B :: name ++ 0x7D :: rest)
      = tagText subject name ++ renderFrom subject none rest := by
  rw [List.cons_append, renderFrom, if_pos rfl, renderFrom_some subject [] rest h, List.nil_append]

theorem renderFrom_filled (rest : Text) :
    renderFrom subject none (placeholder ++ rest) = subject ++ renderFrom subject none rest := by
  have closed : (0x7D : UInt8) ∉ ("expr" : Text) := by decide
  exact renderFrom_tag subject rest closed

theorem renderFrom_other (rest : Text) {name : Text} (h : 0x7D ∉ name)
    (other : ¬ opening <:+ 0x7B :: name) :
    renderFrom subject none (0x7B :: name ++ 0x7D :: rest)
      = 0x7B :: name ++ 0x7D :: renderFrom subject none rest := by
  have differs : name ≠ "expr" := by
    rintro rfl
    exact other (List.suffix_refl _)
  rw [renderFrom_tag subject rest h, tagText, if_neg differs, List.append_assoc]
  rfl

/-- A tag in which a placeholder is hidden is copied. -/
theorem renderFrom_hidden (rest : Text) {front : Text} (h : 0x7D ∉ front) :
    renderFrom subject none (0x7B :: front ++ (placeholder ++ rest))
      = 0x7B :: front ++ (placeholder ++ renderFrom subject none rest) := by
  have differs : front ++ opening ≠ "expr" := by
    intro short
    have := congrArg List.length short
    rw [List.length_append] at this
    change front.length + 5 = 4 at this
    omega
  have whole : ∀ more : Text, 0x7B :: front ++ (placeholder ++ more)
      = 0x7B :: (front ++ opening) ++ 0x7D :: more := by
    intro more
    rw [placeholder_append, ← List.append_assoc]
    rfl
  rw [whole, renderFrom_tag subject rest (close_notMem_opening h), tagText, if_neg differs, whole,
    List.append_assoc]
  rfl

end Rendering

theorem unclosedFrom_some (behind rest : Text) {name : Text} (h : 0x7D ∉ name) :
    unclosedFrom (some behind) (name ++ 0x7D :: rest) = unclosedFrom none rest := by
  induction name with
  | nil => rw [List.nil_append, unclosedFrom, if_pos rfl]
  | cons b name ih =>
    obtain ⟨hb, hname⟩ := not_or.mp (mt List.mem_cons.mpr h)
    rw [List.cons_append, unclosedFrom, if_neg (Ne.symm hb), ih hname]

/-- A source that can be taken apart is a template. -/
theorem Parts.unclosed? {source : Text} (parts : Parts source) :
    Template.unclosed? source = none := by
  have step : ∀ (name rest : Text), 0x7D ∉ name → Template.unclosed? rest = none →
      Template.unclosed? (0x7B :: name ++ 0x7D :: rest) = none := by
    intro name rest h done
    rw [Template.unclosed?, List.cons_append, unclosedFrom, if_pos rfl, unclosedFrom_some _ _ h]
    exact done
  induction parts with
  | nil => rfl
  | @byte b rest hb _ ih =>
    rw [Template.unclosed?, unclosedFrom, if_neg hb]
    exact ih
  | @filled rest _ ih => exact step "expr" rest (by decide) ih
  | @tag name rest hname _ _ ih => exact step name rest hname ih
  | @hidden front rest hfront _ ih =>
    have := step (front ++ opening) rest (close_notMem_opening hfront) ih
    rwa [List.cons_append, List.append_assoc] at this

theorem parse_of_parts {source : Text} (parts : Parts source) :
    parse source = .ok ⟨source, parts.unclosed?⟩ := by
  unfold parse
  split
  · rfl
  · next behind found =>
    rw [parts.unclosed?] at found
    cases found

/-! ## Hidden placeholders -/

/-- No placeholder stands behind a brace that is still open. -/
def Exposed (source : Text) : Prop :=
  ∀ before after, source = before ++ (placeholder ++ after) → Closes before

theorem exposed_nil : Exposed [] := by
  intro before after h
  exact absurd h.symm (List.append_ne_nil_of_right_ne_nil before (List.cons_ne_nil _ _))

theorem exposed_cons {b : UInt8} (h : b ≠ 0x7B) (rest : Text) :
    Exposed (b :: rest) ↔ Exposed rest := by
  constructor
  · rintro exposed before after rfl
    exact (closes_cons h before).mp (exposed (b :: before) after rfl)
  · intro exposed before after split
    cases before with
    | nil => exact closes_nil
    | cons c before =>
      obtain ⟨rfl, left⟩ := List.cons.inj split
      exact (closes_cons h before).mpr (exposed before after left)

/-- A tag without a placeholder behind its brace leaves things to what stands behind it. -/
theorem exposed_tag {name : Text} (hname : 0x7D ∉ name)
    (first : ∀ before, 0x7B :: name = before ++ opening → before = []) (rest : Text) :
    Exposed (0x7B :: name ++ 0x7D :: rest) ↔ Exposed rest := by
  constructor
  · rintro exposed before after rfl
    refine (closes_tag name before).mp (exposed _ after ?_)
    rw [List.append_assoc]
    rfl
  · intro exposed before after split
    obtain ⟨passed, rfl, left⟩ | ⟨inside, front, left⟩ := List.append_eq_append_iff.mp split
    · cases passed with
      | nil => exact absurd (List.cons.inj left).1 (by decide)
      | cons c passed =>
        obtain ⟨rfl, rest⟩ := List.cons.inj left
        exact (closes_tag name passed).mpr (exposed passed after rest)
    · -- the placeholder begins in the tag, so it ends with the tag
      have short : 0x7D ∉ inside := by
        intro mem
        exact close_notMem_brace hname (front ▸ List.mem_append_right before mem)
      have whole : inside = opening := (placeholder_prefix_iff short).mp ⟨after, left⟩
      rw [first before (whole ▸ front)]
      exact closes_nil

theorem exposed_filled (rest : Text) : Exposed (placeholder ++ rest) ↔ Exposed rest := by
  have closed : (0x7D : UInt8) ∉ ("expr" : Text) := by decide
  refine exposed_tag closed (fun before h => ?_) rest
  have length := congrArg List.length h
  rw [List.length_append] at length
  change 5 = before.length + 5 at length
  exact List.eq_nil_of_length_eq_zero (by omega)

theorem exposed_other {name : Text} (hname : 0x7D ∉ name) (other : ¬ opening <:+ 0x7B :: name)
    (rest : Text) : Exposed (0x7B :: name ++ 0x7D :: rest) ↔ Exposed rest :=
  exposed_tag hname (fun before h => absurd ⟨before, h.symm⟩ other) rest

theorem not_exposed_hidden {front : Text} (hfront : 0x7D ∉ front) (rest : Text) :
    ¬ Exposed (0x7B :: front ++ (placeholder ++ rest)) := by
  intro exposed
  exact hfront (exposed (0x7B :: front) rest rfl [] front rfl)

/-- **Filled and hidden placeholders.** The placeholders are those filled and those hidden; the
first change the length on rendering, and the others would if they were replaced too. -/
theorem exists_tally {source : Text} (parts : Parts source) :
    ∃ filled hidden : Nat,
      Text.occurrences source placeholder = filled + hidden ∧ (hidden = 0 ↔ Exposed source) ∧
      ∀ subject : Text,
        (renderFrom subject none source).length + 6 * filled
          = source.length + filled * subject.length ∧
        (Text.replace source placeholder subject).length + 6 * hidden
          = (renderFrom subject none source).length + hidden * subject.length := by
  have six : placeholder.length = 6 := by decide
  -- rendering and replacing treat all parts alike, except for a tag in which one is hidden
  induction parts with
  | nil =>
    refine ⟨0, 0, rfl, iff_of_true rfl exposed_nil, fun subject => ?_⟩
    rw [Nat.zero_mul]
    exact ⟨rfl, rfl⟩
  | @byte b rest hb _ ih =>
    obtain ⟨filled, hidden, count, none, lengths⟩ := ih
    have passed := not_placeholder_at hb rest
    refine ⟨filled, hidden, ?_, ?_, fun subject => ?_⟩
    · rw [Text.occurrences_cons passed, count]
    · rw [none, exposed_cons hb]
    · have := lengths subject
      rw [renderFrom_byte subject hb, Text.replace_cons subject passed, List.length_cons,
        List.length_cons, List.length_cons]
      omega
  | @filled rest _ ih =>
    obtain ⟨filled, hidden, count, none, lengths⟩ := ih
    refine ⟨filled + 1, hidden, ?_, ?_, fun subject => ?_⟩
    · rw [Text.occurrences_append rest (by decide), count]
      omega
    · rw [none, exposed_filled]
    · have := lengths subject
      rw [renderFrom_filled, Text.replace_append subject rest (by decide), List.length_append,
        List.length_append, List.length_append, six, Nat.add_one_mul filled]
      omega
  | @tag name rest hname other _ ih =>
    obtain ⟨filled, hidden, count, none, lengths⟩ := ih
    have inside := close_notMem_brace hname
    refine ⟨filled, hidden, ?_, ?_, fun subject => ?_⟩
    · rw [(replace_until [] rest inside other).2, count]
    · rw [none, exposed_other hname other]
    · have := lengths subject
      rw [renderFrom_other subject rest hname other, (replace_until subject rest inside other).1,
        List.length_append, List.length_append, List.length_append, List.length_cons,
        List.length_cons, List.length_cons, List.length_cons]
      omega
  | @hidden front rest hfront _ ih =>
    obtain ⟨filled, hidden, count, -, lengths⟩ := ih
    have inside := close_notMem_brace hfront
    refine ⟨filled, hidden + 1, ?_, ?_, fun subject => ?_⟩
    · rw [(replace_behind [] rest inside).2, count]
      omega
    · exact iff_of_false (Nat.succ_ne_zero hidden) (not_exposed_hidden hfront rest)
    · have := lengths subject
      rw [renderFrom_hidden subject rest hfront, (replace_behind subject rest inside).1]
      rw [List.length_append, List.length_append, List.length_append, List.length_append,
        List.length_append, List.length_append, six, Nat.add_one_mul hidden]
      omega

/-- Where no placeholder is hidden, or one stands for itself, rendering replaces them all. -/
theorem renderFrom_eq_replace {source subject : Text} (parts : Parts source)
    (h : subject = placeholder ∨ Exposed source) :
    renderFrom subject none source = Text.replace source placeholder subject := by
  induction parts with
  | nil => rfl
  | @byte b rest hb _ ih =>
    rw [exposed_cons hb] at h
    rw [renderFrom_byte subject hb, Text.replace_cons subject (not_placeholder_at hb rest), ih h]
  | @filled rest _ ih =>
    rw [exposed_filled] at h
    rw [renderFrom_filled, Text.replace_append subject rest (by decide), ih h]
  | @tag name rest hname other _ ih =>
    have inside := close_notMem_brace hname
    rw [exposed_other hname other] at h
    rw [renderFrom_other subject rest hname other, (replace_until subject rest inside other).1,
      ih h]
  | @hidden front rest hfront _ ih =>
    have inside := close_notMem_brace hfront
    have self := h.resolve_right (not_exposed_hidden hfront rest)
    rw [renderFrom_hidden subject rest hfront, (replace_behind subject rest inside).1,
      ih (.inl self), self]

/-- A subject as long as the placeholder cannot make up for one that is hidden. -/
theorem exposed_of_renderFrom_eq {source subject : Text} (parts : Parts source)
    (length : subject.length = 6)
    (same : renderFrom subject none source = Text.replace source placeholder subject) :
    subject = placeholder ∨ Exposed source := by
  induction parts with
  | nil => exact .inr exposed_nil
  | @byte b rest hb _ ih =>
    rw [renderFrom_byte subject hb, Text.replace_cons subject (not_placeholder_at hb rest)] at same
    rw [exposed_cons hb]
    exact ih (List.cons.inj same).2
  | @filled rest _ ih =>
    rw [renderFrom_filled, Text.replace_append subject rest (by decide)] at same
    rw [exposed_filled]
    exact ih (List.append_cancel_left same)
  | @tag name rest hname other _ ih =>
    have inside := close_notMem_brace hname
    rw [renderFrom_other subject rest hname other,
      (replace_until subject rest inside other).1] at same
    rw [exposed_other hname other]
    exact ih (List.cons.inj (List.append_cancel_left same)).2
  | @hidden front rest hfront _ ih =>
    have inside := close_notMem_brace hfront
    rw [renderFrom_hidden subject rest hfront, (replace_behind subject rest inside).1] at same
    have texts := List.append_inj (List.append_cancel_left same) (by rw [length]; decide)
    exact .inl texts.1.symm

/-- **Which placeholders are filled.** A source in which every opening brace has a closing one
behind it is a template. Its text with a subject is the source with every placeholder replaced
exactly when none is hidden behind an open brace, or the subject is the placeholder itself; and its
length follows from the count of placeholders exactly when none is hidden, or the subject is as long
as the placeholder. -/
theorem placeholders_filled_iff {source : Text} (closes : Closes source) :
    ∃ template, parse source = .ok template ∧ template.source = source ∧ ∀ subject : Text,
      (template.render subject = source.replace placeholder subject ↔
        subject = placeholder ∨ Exposed source) ∧
      (((template.render subject).length : Int)
          = source.length + template.placeholders * ((subject.length : Int) - 6) ↔
        subject.length = 6 ∨ Exposed source) := by
  have parts := closes.parts
  refine ⟨⟨source, parts.unclosed?⟩, parse_of_parts parts, rfl, fun subject => ?_⟩
  obtain ⟨filled, hidden, count, none, lengths⟩ := exists_tally parts
  obtain ⟨rendered, replaced⟩ := lengths subject
  have placeholders : Template.placeholders ⟨source, parts.unclosed?⟩ = filled + hidden := count
  have render :
      Template.render ⟨source, parts.unclosed?⟩ subject = renderFrom subject .none source := rfl
  rw [placeholders, render, ← none]
  constructor
  · rw [none]
    refine ⟨fun same => ?_, renderFrom_eq_replace parts⟩
    by_cases six : subject.length = 6
    · exact exposed_of_renderFrom_eq parts six same
    · -- a hidden placeholder would change the length
      rw [same] at replaced
      refine .inr (none.mp ?_)
      have balance : 6 * hidden = subject.length * hidden := by
        rw [Nat.mul_comm subject.length]
        omega
      by_contra some
      exact six (Nat.eq_of_mul_eq_mul_right (Nat.pos_of_ne_zero some) balance).symm
  · have balance : ((renderFrom subject .none source).length : Int)
        = source.length + filled * ((subject.length : Int) - 6) := by
      have := congrArg (Nat.cast (R := Int)) rendered
      push_cast at this
      linarith
    rw [balance, Nat.cast_add, add_mul, ← add_assoc, left_eq_add, mul_eq_zero, or_comm]
    refine or_congr ?_ ?_ <;> omega

/-- A tag with another name and a closing brace that ends nothing hide no placeholder. -/
theorem placeholders_filled_iff_other_tag :
    let source : Text := "\x7bother\x7d\x7bexpr\x7d\x7d"
    Closes source ∧ Exposed source ∧ ∃ template, parse source = .ok template ∧
      template.render "at" = "\x7bother\x7dat\x7d" ∧ template.placeholders = 1 ∧
      template.render "at" = source.replace placeholder "at" ∧
      ((template.render "at").length : Int) = source.length + 1 * ((2 : Int) - 6) := by
  intro source
  have closes : Closes source := by
    refine (closes_tag "other" "\x7bexpr\x7d\x7d").mpr ((closes_tag "expr" "\x7d").mpr ?_)
    exact (closes_cons (by decide) []).mpr closes_nil
  have exposed : Exposed source := by
    have closed : (0x7D : UInt8) ∉ ("other" : Text) := by decide
    refine (exposed_other closed (by decide) "\x7bexpr\x7d\x7d").mpr ?_
    refine (exposed_filled "\x7d").mpr ((exposed_cons (by decide) []).mpr exposed_nil)
  obtain ⟨template, parsed, same, filled⟩ := placeholders_filled_iff closes
  obtain ⟨replaced, length⟩ := filled "at"
  have text := replaced.mpr (.inr exposed)
  have count : template.placeholders = 1 := by
    rw [placeholders, same]
    decide
  refine ⟨closes, exposed, template, parsed, ?_, count, text, ?_⟩
  · rw [text]
    decide
  · rw [length.mpr (.inr exposed), count]
    rfl

/-- In a pair of braces more, the placeholder is counted and copied. -/
theorem nested_placeholder_not_filled :
    ¬ ∀ source : Text, Closes source → ∃ template, parse source = .ok template ∧
      ∀ subject : Text, template.render subject = source.replace placeholder subject ∧
        ((template.render subject).length : Int)
          = source.length + template.placeholders * ((subject.length : Int) - 6) := by
  intro all
  have closes : Closes "\x7b\x7bexpr\x7d\x7d" := by
    refine (closes_tag "\x7bexpr" "\x7d").mpr ?_
    exact (closes_cons (by decide) []).mpr closes_nil
  obtain ⟨template, parsed, filled⟩ := all _ closes
  rw [parse_of_parts closes.parts] at parsed
  cases parsed
  have copied : renderFrom "S" none "\x7b\x7bexpr\x7d\x7d" = "\x7bS\x7d" := (filled "S").1
  exact absurd copied (by decide)

end Template

end DatePattern
