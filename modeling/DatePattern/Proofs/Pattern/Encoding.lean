import DatePattern.Pattern.Basic
import DatePattern.Proofs.Text.Utf8

/-!
# The first bad byte of a format

The check of a format's encoding reads characters from the left, and a bad byte is read as U+FFFD.
So is U+FFFD itself, and the check tells the two apart by how many bytes were read. Where it stops
can be said without reading: in front are encoded characters, and what is left begins with none.

- `BadAt`: that place; `BadAt.unique`: a text that is not UTF-8 has only one;
- `Utf8.exists_of_strayFrom`: a stray byte that is found stands behind encoded characters;
- `Pattern.find?_placedFrom`: looking for a U+FFFD of one byte finds the first stray byte. The
  induction carries the text already passed, since the check looks at the format anew from each
  offset;
- `Utf8.apart_of_append`: an encoded character cannot begin inside another, so a place behind
  encoded characters is never inside one.
-/

namespace DatePattern

namespace Utf8

/-! ## Characters do not overlap -/

/-- Of the bytes of a character all but the first continue it, and the first does not. -/
theorem isTail_encode {c : Char} {a : UInt8} {tail : Text}
    (encoded : String.utf8EncodeChar c = a :: tail) :
    isTail a = false ∧ ∀ b ∈ tail, isTail b = true := by
  have second : ∀ {lead b : UInt8}, isSecond lead b = true → isTail b = true := by
    intro lead b h
    rw [isSecond_iff] at h
    exact (isTail_iff b).mpr ⟨h.1, h.2.1⟩
  have lead : ∀ {b : UInt8}, b.toNat < 0x80 ∨ 0xBF < b.toNat → isTail b = false := by
    intro b h
    rw [Bool.eq_false_iff, ne_eq, isTail_iff]
    omega
  have shape := shape_encode c
  rw [encoded] at shape
  cases shape with
  | one ha _ => exact ⟨lead (.inl ha), List.forall_mem_nil _⟩
  | two ha _ hb _ => exact ⟨lead (.inr (by omega)), by simpa using hb⟩
  | three ha _ hb hc _ => exact ⟨lead (.inr (by omega)), by simpa using ⟨second hb, hc⟩⟩
  | four ha _ hb hc hd _ => exact ⟨lead (.inr (by omega)), by simpa using ⟨second hb, hc, hd⟩⟩

/-- No character's encoding starts with that of another. -/
theorem eq_of_encode_append {c d : Char} {rest more : Text}
    (h : String.utf8EncodeChar c ++ rest = String.utf8EncodeChar d ++ more) : c = d := by
  obtain ⟨a, tail, hc, readC⟩ := first_encode c rest
  obtain ⟨b, tail', hd, readD⟩ := first_encode d more
  rw [hc, hd, List.cons_append, List.cons_append, List.cons.injEq] at h
  rw [h.1, h.2, readD] at readC
  exact (Symbol.char.inj readC).symm

/-- A cut behind encoded characters is not inside a character that stands in the text. -/
theorem apart_of_append {cs : List Char} {rest before after : Text} {c : Char}
    (h : Text.ofChars cs ++ rest = before ++ (Text.ofChar c ++ after)) :
    (Text.ofChars cs).length ≤ before.length ∨
      before.length + c.utf8Size ≤ (Text.ofChars cs).length := by
  induction cs generalizing before with
  | nil => exact .inl (Nat.zero_le _)
  | cons d cs ih =>
    rw [Text.ofChars_cons, List.append_assoc] at h
    rw [Text.ofChars_cons, List.length_append]
    obtain ⟨passed, rfl, left⟩ | ⟨inside, front, left⟩ := List.append_eq_append_iff.mp h
    · -- the character `d` lies before the cut in front of `c`
      rw [List.length_append]
      have := ih left
      omega
    · cases before with
      | nil =>
        have same : d = c := eq_of_encode_append h
        have size : (Text.ofChar c).length = c.utf8Size := String.length_utf8EncodeChar c
        rw [same, size, List.length_nil]
        omega
      | cons a before =>
        -- `c` would begin at a byte that continues `d`
        obtain ⟨lead, tail, encoded, -⟩ := first_encode c after
        have tails := (isTail_encode front).2
        cases inside with
        | nil =>
          rw [front, List.append_nil]
          have := @ih [] left.symm
          rw [List.length_nil] at this
          omega
        | cons b inside =>
          rw [Text.ofChar, encoded, List.cons_append, List.cons_append, List.cons.injEq] at left
          have continues := tails b (List.mem_append_right _ List.mem_cons_self)
          rw [← left.1, (isTail_encode encoded).1] at continues
          cases continues

/-! ## Reading with offsets -/

theorem placedFrom_eq_drop (offset skip : Nat) (text : Text) :
    placedFrom offset skip text = placedFrom (offset + skip) 0 (text.drop skip) :=
  eq_drop_of_skip placedFrom (fun _ skip => by cases skip <;> rfl) (fun _ _ _ _ => rfl) offset skip
    text

theorem placedFrom_encode (offset : Nat) (c : Char) (rest : Text) :
    placedFrom offset 0 (String.utf8EncodeChar c ++ rest)
      = (offset, c) :: placedFrom (offset + c.utf8Size) 0 rest := by
  obtain ⟨a, tail, encoded, read⟩ := first_encode c rest
  rw [encoded, List.cons_append, placedFrom, read, Symbol.size, ← length_encode encoded,
    Nat.add_sub_cancel, placedFrom_eq_drop, List.drop_left, Nat.add_assoc, Nat.add_comm 1]
  rfl

theorem placedFrom_stray (offset : Nat) {b : UInt8} {rest : Text} (stray : Stray b rest) :
    placedFrom offset 0 (b :: rest)
      = (offset, Symbol.replacement) :: placedFrom (offset + 1) 0 rest := by
  obtain ⟨a, read⟩ := (stray_iff b rest).mp stray
  rw [placedFrom, read]
  rfl

theorem strayFrom_stray (offset : Nat) {b : UInt8} {rest : Text} (stray : Stray b rest) :
    strayFrom offset 0 (b :: rest) = some offset := by
  obtain ⟨a, read⟩ := (stray_iff b rest).mp stray
  rw [strayFrom, read]

theorem firstSize_encode (c : Char) (rest : Text) :
    Text.firstSize (String.utf8EncodeChar c ++ rest) = c.utf8Size := by
  obtain ⟨a, tail, encoded, read⟩ := first_encode c rest
  rw [encoded, List.cons_append, Text.firstSize, read]
  rfl

theorem firstSize_stray {b : UInt8} {rest : Text} (stray : Stray b rest) :
    Text.firstSize (b :: rest) = 1 := by
  obtain ⟨a, read⟩ := (stray_iff b rest).mp stray
  rw [Text.firstSize, read]
  rfl

/-- A stray byte that is found stands behind encoded characters. -/
theorem exists_of_strayFrom {offset i : Nat} {text : Text}
    (found : strayFrom offset 0 text = some i) :
    ∃ cs b rest, text = Text.ofChars cs ++ b :: rest ∧ Stray b rest ∧
      i = offset + (Text.ofChars cs).length := by
  induction text using decode_induction generalizing offset with
  | nil => cases found
  | char c rest ih =>
    rw [strayFrom_encode] at found
    obtain ⟨cs, b, more, rfl, stray, place⟩ := ih found
    refine ⟨c :: cs, b, more, ?_, stray, ?_⟩
    · rw [Text.ofChars_cons, List.append_assoc]
      rfl
    · have size : (Text.ofChar c).length = c.utf8Size := String.length_utf8EncodeChar c
      rw [Text.ofChars_cons, List.length_append, size, place, Nat.add_assoc]
  | stray b rest stray ih =>
    rw [strayFrom_stray offset stray] at found
    exact ⟨[], b, rest, rfl, stray, (Option.some.inj found).symm⟩

end Utf8

/-! ## Where a text goes bad -/

/-- Encoded characters stand before `offset`, and none begins there. -/
structure BadAt (text : Text) (offset : Nat) : Prop where
  valid_before : ∃ cs, text.take offset = Text.ofChars cs
  none_begins : ∀ c, ¬ Text.ofChar c <+: text.drop offset

namespace BadAt

variable {text : Text}

theorem of_firstStray? {i : Nat} (found : text.firstStray? = some i) :
    i < text.length ∧ BadAt text i := by
  obtain ⟨cs, b, rest, rfl, stray, place⟩ := Utf8.exists_of_strayFrom found
  rw [Nat.zero_add] at place
  subst place
  refine ⟨by simp, ⟨cs, List.take_left⟩, ?_⟩
  rw [List.drop_left]
  rintro c ⟨more, front⟩
  exact stray c more front.symm

/-- Two such places would have encoded characters between them. -/
theorem le_of_bad {i j : Nat} (bad : ¬ ∃ cs, text = Text.ofChars cs) (hi : BadAt text i)
    (hj : BadAt text j) : j ≤ i := by
  by_contra later
  obtain ⟨cs, before⟩ := hi.valid_before
  obtain ⟨ds, upto⟩ := hj.valid_before
  have joined : Text.ofChars cs ++ (text.drop i).take (j - i) = Text.ofChars ds := by
    rw [← before, ← upto, ← List.take_add, Nat.add_sub_cancel' (by omega)]
  obtain ⟨between, -, encoded⟩ := Text.exists_of_ofChars_append joined
  cases between with
  | nil =>
    -- nothing is left behind `i`, so the whole text is what stands before it
    have rest : text.drop i = [] := by
      have short : (text.drop i).length = 0 ∨ j - i = 0 := by
        have := congrArg List.length encoded
        rw [List.length_take] at this
        simp only [Text.ofChars, List.flatMap_nil, List.length_nil] at this
        omega
      exact List.eq_nil_of_length_eq_zero (by omega)
    refine bad ⟨cs, ?_⟩
    rw [← before, ← List.take_append_drop i text, rest, List.append_nil, List.take_take, min_self]
  | cons c between =>
    rw [Text.ofChars_cons] at encoded
    exact hi.none_begins c ((List.prefix_append _ _).trans (encoded ▸ List.take_prefix _ _))

/-- A text that is not UTF-8 goes bad in one place. -/
theorem unique {i j : Nat} (bad : ¬ ∃ cs, text = Text.ofChars cs) (hi : BadAt text i)
    (hj : BadAt text j) : j = i :=
  le_antisymm (le_of_bad bad hi hj) (le_of_bad bad hj hi)

/-- A character of the text lies before that place or behind it. -/
theorem apart {i : Nat} {before after : Text} {c : Char} (h : BadAt text i)
    (inside : i < text.length) (stands : text = before ++ (Text.ofChar c ++ after)) :
    i < before.length ∨ before.length + c.utf8Size ≤ i := by
  obtain ⟨cs, valid⟩ := h.valid_before
  have length : (Text.ofChars cs).length = i := by
    rw [← valid, List.length_take]
    omega
  have cut : Text.ofChars cs ++ text.drop i = before ++ (Text.ofChar c ++ after) := by
    rw [← valid, List.take_append_drop, stands]
  have sides := Utf8.apart_of_append cut
  rw [length] at sides
  have here : i ≠ before.length := by
    rintro rfl
    refine h.none_begins c ?_
    rw [stands, List.drop_left]
    exact List.prefix_append _ _
  omega

end BadAt

namespace Pattern

/-! ## The check -/

/-- **Looking for a U+FFFD of one byte finds the first stray byte.** -/
theorem find?_placedFrom (passed text : Text) :
    ((Utf8.placedFrom passed.length 0 text).find? (standsForStray (passed ++ text))).map Prod.fst
      = Utf8.strayFrom passed.length 0 text := by
  induction text using Utf8.decode_induction generalizing passed with
  | nil => rfl
  | char c rest ih =>
    -- the character takes its own number of bytes, and U+FFFD takes three
    have kept : standsForStray (passed ++ (String.utf8EncodeChar c ++ rest)) (passed.length, c)
        = false := by
      rw [standsForStray, List.drop_left, Utf8.firstSize_encode]
      by_cases same : c = Symbol.replacement
      · rw [same]
        rfl
      · simp [same]
    have step := ih (passed ++ String.utf8EncodeChar c)
    rw [List.length_append, String.length_utf8EncodeChar, List.append_assoc] at step
    rw [Utf8.placedFrom_encode, Utf8.strayFrom_encode, List.find?_cons_of_neg (by simp [kept]),
      step]
  | stray b rest stray ih =>
    have found :
        standsForStray (passed ++ b :: rest) (passed.length, Symbol.replacement) = true := by
      rw [standsForStray, List.drop_left, Utf8.firstSize_stray stray]
      rfl
    rw [Utf8.placedFrom_stray _ stray, Utf8.strayFrom_stray _ stray, List.find?_cons_of_pos found]
    rfl

theorem checkEncoding_of_isUtf8 {format : Text} (valid : format.isUtf8 = true) :
    checkEncoding format = .ok () := by
  rw [checkEncoding, if_pos valid]

theorem checkEncoding_of_firstStray? {format : Text} {i : Nat}
    (found : format.firstStray? = some i) : checkEncoding format = .error (.strayByte i) := by
  have invalid : format.isUtf8 ≠ true := by simp [Text.isUtf8, found]
  have search := find?_placedFrom [] format
  obtain ⟨placed, first, offset⟩ := Option.map_eq_some_iff.mp (search.trans found)
  rw [checkEncoding, if_neg invalid]
  have first' : format.placedChars.find? (standsForStray format) = some placed := first
  rw [first', ← offset]

/-- The check passes a format, or names its first stray byte. -/
theorem checkEncoding_cases (format : Text) :
    (format.isUtf8 = true ∧ checkEncoding format = .ok ()) ∨
    (format.isUtf8 = false ∧
      ∃ i, format.firstStray? = some i ∧ checkEncoding format = .error (.strayByte i)) := by
  cases found : format.firstStray? with
  | none =>
    have valid : format.isUtf8 = true := by rw [Text.isUtf8, found]; rfl
    exact .inl ⟨valid, checkEncoding_of_isUtf8 valid⟩
  | some i =>
    have invalid : format.isUtf8 = false := by rw [Text.isUtf8, found]; rfl
    exact .inr ⟨invalid, i, rfl, checkEncoding_of_firstStray? found⟩

/-- **The first bad byte.** A format passes the check exactly when it encodes characters. Otherwise
the error names the one offset that has encoded characters before it and begins none, so the error
without an offset never comes up. No byte of an encoded character is named, U+FFFD included. -/
theorem encoding_error_names_first_bad_byte (format : Text) :
    (checkEncoding format = .ok () ↔ ∃ cs, format = Text.ofChars cs) ∧
    ((¬ ∃ cs, format = Text.ofChars cs) →
      ∃ i, checkEncoding format = .error (.strayByte i) ∧ i < format.length ∧ BadAt format i ∧
        ∀ j, BadAt format j → j = i) ∧
    checkEncoding format ≠ .error .notUtf8 ∧
    ∀ i before c after, checkEncoding format = .error (.strayByte i) →
      format = before ++ (Text.ofChar c ++ after) →
      i < before.length ∨ before.length + c.utf8Size ≤ i := by
  obtain ⟨valid, passes⟩ | ⟨invalid, i, found, fails⟩ := checkEncoding_cases format
  · have encoded := (Text.isUtf8_iff format).mp valid
    rw [passes]
    exact ⟨by simp [encoded], fun bad => absurd encoded bad, by simp, by simp⟩
  · have bad : ¬ ∃ cs, format = Text.ofChars cs := by
      rw [← Text.isUtf8_iff, invalid]
      simp
    obtain ⟨inside, place⟩ := BadAt.of_firstStray? found
    rw [fails]
    refine ⟨by simp [bad], fun _ => ?_, by simp, ?_⟩
    · exact ⟨i, rfl, inside, place, fun j other => place.unique bad other⟩
    · rintro j before c after same stands
      cases same
      exact place.apart inside stands

/-- Behind `Y` and U+FFFD, which takes the bytes 1 to 3, the first two bytes of a character of
three stand alone. -/
theorem encoding_error_names_first_bad_byte_truncated :
    let format : Text := Text.ofChars ['Y', Symbol.replacement] ++ [0xE2, 0x82]
    (¬ ∃ cs, format = Text.ofChars cs) ∧ checkEncoding format = .error (.strayByte 4) ∧
      BadAt format 4 ∧ (∀ j, BadAt format j → j = 4) ∧
      format = Text.ofChar 'Y' ++ (Text.ofChar Symbol.replacement ++ [0xE2, 0x82]) ∧
      (Text.ofChar 'Y').length + Symbol.replacement.utf8Size ≤ 4 := by
  intro format
  have bad : ¬ ∃ cs, format = Text.ofChars cs := by
    rw [← Text.isUtf8_iff]
    decide
  obtain ⟨-, named, -, apart⟩ := encoding_error_names_first_bad_byte format
  have fails : checkEncoding format = .error (.strayByte 4) := by decide
  obtain ⟨i, same, -, place, only⟩ := named bad
  rw [fails] at same
  cases same
  have stands : format = Text.ofChar 'Y' ++ (Text.ofChar Symbol.replacement ++ [0xE2, 0x82]) := rfl
  exact ⟨bad, fails, place, only, stands,
    (apart 4 _ _ _ fails stands).resolve_left (by decide)⟩

end Pattern

end DatePattern
