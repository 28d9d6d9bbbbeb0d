import DatePattern.Text.Utf8
import Mathlib.Tactic

/-!
# Decoding UTF-8

`Utf8.first` reads one symbol off the front of a text, and `Text.symbols` and
`Text.firstStray?` repeat that to the end. This module ties them to the encoder of
characters:

- `Utf8.Shape`: the four shapes of an encoded character, each with its code point. The
  decoder accepts exactly these (`first_of_shape`, `shape_of_first`) and the encoder writes
  exactly these (`shape_encode`, `encode_of_shape`), so the two are never compared with each
  other byte by byte;
- `Text.chars_ofChars`: what is written from characters is read back as those characters;
- `Text.isUtf8_iff`: a text has no stray byte exactly when it is written from characters;
- `Text.flatMap_ofChars`: escaping ASCII bytes one by one is escaping characters one by one;
- `Text.isUtf8_take_iff`: a text may be cut between its characters and nowhere else;
- `Utf8.eq_drop_of_skip`: a reader that passes over elements it has taken along goes on behind them;
- `Utf8.decode_induction`: a text is read as characters and stray bytes, one after the other, and
  `Text.repaired_iff` says what it reads as.
-/

namespace DatePattern

namespace Utf8

/-! ## The four shapes -/

theorem isTail_iff (b : UInt8) : isTail b = true ↔ 0x80 ≤ b.toNat ∧ b.toNat ≤ 0xBF := by
  simp [isTail, UInt8.le_iff_toNat_le]

theorem isSecond_iff (lead b : UInt8) :
    isSecond lead b = true ↔ 0x80 ≤ b.toNat ∧ b.toNat ≤ 0xBF ∧
      (lead.toNat = 0xE0 → 0xA0 ≤ b.toNat) ∧ (lead.toNat = 0xED → b.toNat ≤ 0x9F) ∧
      (lead.toNat = 0xF0 → 0x90 ≤ b.toNat) ∧ (lead.toNat = 0xF4 → b.toNat ≤ 0x8F) := by
  have same : ∀ n : UInt8, lead = n ↔ lead.toNat = n.toNat := fun n => UInt8.toNat_inj.symm
  simp only [isSecond, secondRange, same, Bool.and_eq_true, decide_eq_true_eq,
    UInt8.le_iff_toNat_le, UInt8.toNat_ofNat]
  split_ifs <;> simp only [UInt8.toNat_ofNat] <;> omega

/-- The shapes of an encoded character: its bytes and its code point. The code point is an
equation rather than an index, so that arithmetic stays out of the unifier. -/
inductive Shape : Text → Nat → Prop where
  | one {a : UInt8} {n : Nat} : a.toNat < 0x80 → n = a.toNat → Shape [a] n
  | two {a b : UInt8} {n : Nat} : 0xC2 ≤ a.toNat → a.toNat < 0xE0 → isTail b →
      n = (a.toNat - 0xC0) * 64 + tailBits b → Shape [a, b] n
  | three {a b c : UInt8} {n : Nat} : 0xE0 ≤ a.toNat → a.toNat < 0xF0 → isSecond a b →
      isTail c → n = ((a.toNat - 0xE0) * 64 + tailBits b) * 64 + tailBits c → Shape [a, b, c] n
  | four {a b c d : UInt8} {n : Nat} : 0xF0 ≤ a.toNat → a.toNat < 0xF5 → isSecond a b →
      isTail c → isTail d →
      n = (((a.toNat - 0xF0) * 64 + tailBits b) * 64 + tailBits c) * 64 + tailBits d →
      Shape [a, b, c, d] n

/-- The decoder reads every shape, whatever follows it. -/
theorem first_of_shape {a : UInt8} {tail : Text} {n : Nat} (h : Shape (a :: tail) n)
    (rest : Text) : first a (tail ++ rest) = .char (Char.ofNat n) := by
  have below : ∀ n : UInt8, a < n ↔ a.toNat < n.toNat := fun n => UInt8.lt_iff_toNat_lt
  unfold first
  simp only [below, UInt8.toNat_ofNat]
  cases h with
  | one ha e => rw [if_pos (by omega), e]
  | two ha ha' hb e =>
    rw [if_neg (by omega), if_neg (by omega), if_pos (by omega)]
    simp [hb, e]
  | three ha ha' hb hc e =>
    rw [if_neg (by omega), if_neg (by omega), if_neg (by omega), if_pos (by omega)]
    simp [hb, hc, e]
  | four ha ha' hb hc hd e =>
    rw [if_neg (by omega), if_neg (by omega), if_neg (by omega), if_neg (by omega),
      if_pos (by omega)]
    simp [hb, hc, hd, e]

/-- A character that the decoder reads has a shape at the front of the text. -/
theorem shape_of_first {a : UInt8} {rest : Text} {c : Char} (h : first a rest = .char c) :
    ∃ tail more n, Shape (a :: tail) n ∧ rest = tail ++ more ∧ c = Char.ofNat n := by
  have below : ∀ n : UInt8, a < n ↔ a.toNat < n.toNat := fun n => UInt8.lt_iff_toNat_lt
  unfold first at h
  simp only [below, UInt8.toNat_ofNat] at h
  split at h
  · next h1 => exact ⟨[], rest, _, .one h1 rfl, rfl, (Symbol.char.inj h).symm⟩
  split at h
  · cases h
  split at h
  · next h2 h3 =>
    split at h
    · next b more =>
      split at h
      · next hb =>
        exact ⟨[b], more, _, .two (by simp at h2; omega) h3 hb rfl, rfl,
          (Symbol.char.inj h).symm⟩
      · cases h
    · cases h
  split at h
  · next h3 h4 =>
    split at h
    · next b d more =>
      split at h
      · next hb =>
        rw [Bool.and_eq_true] at hb
        exact ⟨[b, d], more, _, .three (by simp at h3; omega) h4 hb.1 hb.2 rfl, rfl,
          (Symbol.char.inj h).symm⟩
      · cases h
    · cases h
  split at h
  · next h4 h5 =>
    split at h
    · next b d e more =>
      split at h
      · next hb =>
        rw [Bool.and_eq_true, Bool.and_eq_true] at hb
        exact ⟨[b, d, e], more, _, .four (by simp at h4; omega) h5 hb.1.1 hb.1.2 hb.2 rfl, rfl,
          (Symbol.char.inj h).symm⟩
      · cases h
    · cases h
  · cases h

/-! ## The encoder writes the shapes -/

/-- The code point of a character is no surrogate. -/
theorem scalar (c : Char) : c.toNat < 0xD800 ∨ (0xDFFF < c.toNat ∧ c.toNat < 0x110000) :=
  c.valid

theorem toNat_ofNat_scalar {n : Nat} (h : n < 0xD800 ∨ (0xDFFF < n ∧ n < 0x110000)) :
    (Char.ofNat n).val.toNat = n := by
  have hv : n.isValidChar := h
  rw [Char.ofNat, dif_pos hv]
  rfl

theorem toNat_ofNat_byte {n : Nat} (h : n < 256) : (UInt8.ofNat n).toNat = n := by
  simpa using Nat.mod_eq_of_lt h

theorem ofNat_eq_byte {n : Nat} {a : UInt8} (h : n = a.toNat) : UInt8.ofNat n = a := by
  rw [h, UInt8.ofNat_toNat]

/-- The encoding of a character has a shape, and its code point is the character's. -/
theorem shape_encode (c : Char) : Shape (String.utf8EncodeChar c) c.toNat := by
  have hc := scalar c
  have hv : c.val.toNat = c.toNat := rfl
  unfold String.utf8EncodeChar
  rw [hv]
  generalize c.toNat = n at hc
  dsimp only
  split
  · have ha : (UInt8.ofNat n).toNat = n := toNat_ofNat_byte (by omega)
    exact .one (by omega) ha.symm
  split
  · have ha : (UInt8.ofNat (n / 64 % 32 + 192)).toNat = n / 64 % 32 + 192 :=
      toNat_ofNat_byte (by omega)
    have hb : (UInt8.ofNat (n % 64 + 128)).toNat = n % 64 + 128 := toNat_ofNat_byte (by omega)
    refine .two (by omega) (by omega) ((isTail_iff _).mpr (by omega)) ?_
    unfold tailBits
    omega
  split
  · have ha : (UInt8.ofNat (n / 4096 % 16 + 224)).toNat = n / 4096 % 16 + 224 :=
      toNat_ofNat_byte (by omega)
    have hb : (UInt8.ofNat (n / 64 % 64 + 128)).toNat = n / 64 % 64 + 128 :=
      toNat_ofNat_byte (by omega)
    have hd : (UInt8.ofNat (n % 64 + 128)).toNat = n % 64 + 128 := toNat_ofNat_byte (by omega)
    refine .three (by omega) (by omega) ((isSecond_iff _ _).mpr (by omega))
      ((isTail_iff _).mpr (by omega)) ?_
    unfold tailBits
    omega
  · have ha : (UInt8.ofNat (n / 262144 % 8 + 240)).toNat = n / 262144 % 8 + 240 :=
      toNat_ofNat_byte (by omega)
    have hb : (UInt8.ofNat (n / 4096 % 64 + 128)).toNat = n / 4096 % 64 + 128 :=
      toNat_ofNat_byte (by omega)
    have hd : (UInt8.ofNat (n / 64 % 64 + 128)).toNat = n / 64 % 64 + 128 :=
      toNat_ofNat_byte (by omega)
    have he : (UInt8.ofNat (n % 64 + 128)).toNat = n % 64 + 128 := toNat_ofNat_byte (by omega)
    refine .four (by omega) (by omega) ((isSecond_iff _ _).mpr (by omega))
      ((isTail_iff _).mpr (by omega)) ((isTail_iff _).mpr (by omega)) ?_
    unfold tailBits
    omega

/-- A shape is the encoding of its code point: no character is written in two ways. -/
theorem encode_of_shape {bytes : Text} {n : Nat} (h : Shape bytes n) :
    String.utf8EncodeChar (Char.ofNat n) = bytes := by
  have hn : n < 0xD800 ∨ (0xDFFF < n ∧ n < 0x110000) := by
    cases h with
    | one ha e => omega
    | two ha ha' hb e =>
      rw [isTail_iff] at hb
      unfold tailBits at e
      omega
    | three ha ha' hb hc e =>
      rw [isSecond_iff] at hb
      rw [isTail_iff] at hc
      unfold tailBits at e
      omega
    | four ha ha' hb hc hd e =>
      rw [isSecond_iff] at hb
      rw [isTail_iff] at hc hd
      unfold tailBits at e
      omega
  unfold String.utf8EncodeChar
  rw [toNat_ofNat_scalar hn]
  dsimp only
  cases h with
  | one ha e => rw [if_pos (by omega), ofNat_eq_byte e]
  | @two a b _ ha ha' hb e =>
    rw [isTail_iff] at hb
    unfold tailBits at e
    rw [if_neg (by omega), if_pos (by omega), ofNat_eq_byte (a := a) (by omega),
      ofNat_eq_byte (a := b) (by omega)]
  | @three a b c _ ha ha' hb hc e =>
    rw [isSecond_iff] at hb
    rw [isTail_iff] at hc
    unfold tailBits at e
    rw [if_neg (by omega), if_neg (by omega), if_pos (by omega),
      ofNat_eq_byte (a := a) (by omega), ofNat_eq_byte (a := b) (by omega),
      ofNat_eq_byte (a := c) (by omega)]
  | @four a b c d _ ha ha' hb hc hd e =>
    rw [isSecond_iff] at hb
    rw [isTail_iff] at hc hd
    unfold tailBits at e
    rw [if_neg (by omega), if_neg (by omega), if_neg (by omega),
      ofNat_eq_byte (a := a) (by omega), ofNat_eq_byte (a := b) (by omega),
      ofNat_eq_byte (a := c) (by omega), ofNat_eq_byte (a := d) (by omega)]

/-- A byte below 0x80 is a character by itself. -/
theorem shape_of_ascii {bytes : Text} {n : Nat} (h : Shape bytes n) {b : UInt8} (mem : b ∈ bytes)
    (low : b.toNat < 0x80) : bytes = [b] ∧ n = b.toNat := by
  cases h with
  | one ha e =>
    cases List.mem_singleton.mp mem
    exact ⟨rfl, e⟩
  | two ha ha' hb e =>
    rw [isTail_iff] at hb
    simp only [List.mem_cons, List.not_mem_nil, or_false] at mem
    rcases mem with rfl | rfl <;> omega
  | three ha ha' hb hc e =>
    rw [isSecond_iff] at hb
    rw [isTail_iff] at hc
    simp only [List.mem_cons, List.not_mem_nil, or_false] at mem
    rcases mem with rfl | rfl | rfl <;> omega
  | four ha ha' hb hc hd e =>
    rw [isSecond_iff] at hb
    rw [isTail_iff] at hc hd
    simp only [List.mem_cons, List.not_mem_nil, or_false] at mem
    rcases mem with rfl | rfl | rfl | rfl <;> omega

/-! ## One symbol -/

theorem first_encode (c : Char) (rest : Text) :
    ∃ a tail, String.utf8EncodeChar c = a :: tail ∧ first a (tail ++ rest) = .char c := by
  have h := shape_encode c
  cases he : String.utf8EncodeChar c with
  | nil => exact absurd he String.utf8EncodeChar_ne_nil
  | cons a tail =>
    rw [he] at h
    refine ⟨a, tail, rfl, ?_⟩
    rw [first_of_shape h rest, Char.ofNat_toNat]

theorem length_encode {c : Char} {a : UInt8} {tail : Text}
    (encoded : String.utf8EncodeChar c = a :: tail) : tail.length + 1 = c.utf8Size := by
  rw [← String.length_utf8EncodeChar, encoded, List.length_cons]

theorem encode_of_first {a : UInt8} {rest : Text} {c : Char} (h : first a rest = .char c) :
    ∃ more, a :: rest = String.utf8EncodeChar c ++ more := by
  obtain ⟨tail, more, n, hs, rfl, rfl⟩ := shape_of_first h
  exact ⟨more, by rw [encode_of_shape hs]; rfl⟩

/-- The byte `b` in front of `rest` begins no encoded character. -/
def Stray (b : UInt8) (rest : Text) : Prop :=
  ∀ c more, b :: rest ≠ String.utf8EncodeChar c ++ more

theorem stray_iff (a : UInt8) (rest : Text) :
    Stray a rest ↔ ∃ b, first a rest = .stray b := by
  constructor
  · intro stray
    cases hf : first a rest with
    | stray b => exact ⟨b, rfl⟩
    | char c =>
      obtain ⟨more, front⟩ := encode_of_first hf
      exact absurd front (stray c more)
  · rintro ⟨b, hf⟩ c more front
    obtain ⟨d, tail, encoded, read⟩ := first_encode c more
    rw [encoded, List.cons_append, List.cons.injEq] at front
    rw [front.1, front.2, read] at hf
    cases hf

/-- A text is empty, or an encoded character or a stray byte stands in front of a text. By
induction on the number of bytes, since a character may take several. -/
@[elab_as_elim]
theorem decode_induction {motive : Text → Prop} (nil : motive [])
    (char : ∀ c rest, motive rest → motive (String.utf8EncodeChar c ++ rest))
    (stray : ∀ b rest, Stray b rest → motive rest → motive (b :: rest)) (text : Text) :
    motive text := by
  induction hn : text.length using Nat.strong_induction_on generalizing text with
  | _ n ih =>
    cases text with
    | nil => exact nil
    | cons a rest =>
      cases hf : first a rest with
      | stray b =>
        have shorter : rest.length < n := by
          rw [← hn]
          exact Nat.lt_add_one _
        exact stray a rest ((stray_iff a rest).mpr ⟨b, hf⟩) (ih _ shorter rest rfl)
      | char c =>
        obtain ⟨more, hm⟩ := encode_of_first hf
        have shorter : more.length < n := by
          have hp := c.utf8Size_pos
          rw [← hn, hm, List.length_append, String.length_utf8EncodeChar]
          omega
        rw [hm]
        exact char c more (ih _ shorter more rfl)

/-! ## Whole texts -/

/-- A reader that passes over `skip` elements and counts them goes on behind them. -/
theorem eq_drop_of_skip {α β : Type} (read : (offset skip : Nat) → List α → β)
    (nil : ∀ offset skip, read offset skip [] = read (offset + skip) 0 [])
    (cons : ∀ offset skip a rest, read offset (skip + 1) (a :: rest) = read (offset + 1) skip rest)
    (offset skip : Nat) (text : List α) :
    read offset skip text = read (offset + skip) 0 (text.drop skip) := by
  induction skip generalizing offset text with
  | zero => rfl
  | succ skip ih =>
    cases text with
    | nil => exact nil offset (skip + 1)
    | cons a rest =>
      rw [cons, ih, List.drop_succ_cons, Nat.add_assoc, Nat.add_comm 1 skip]

theorem symbolsFrom_eq_drop (skip : Nat) (text : Text) :
    symbolsFrom skip text = symbolsFrom 0 (text.drop skip) :=
  eq_drop_of_skip (fun _ => symbolsFrom) (fun _ skip => by cases skip <;> rfl)
    (fun _ _ _ _ => rfl) 0 skip text

theorem strayFrom_eq_drop (offset skip : Nat) (text : Text) :
    strayFrom offset skip text = strayFrom (offset + skip) 0 (text.drop skip) :=
  eq_drop_of_skip strayFrom (fun _ skip => by cases skip <;> rfl) (fun _ _ _ _ => rfl) offset skip
    text

theorem symbolsFrom_encode (c : Char) (rest : Text) :
    symbolsFrom 0 (String.utf8EncodeChar c ++ rest) = .char c :: symbolsFrom 0 rest := by
  obtain ⟨a, tail, he, hf⟩ := first_encode c rest
  rw [he, List.cons_append, symbolsFrom, hf, symbolsFrom_eq_drop, Symbol.size, ← length_encode he,
    Nat.add_sub_cancel, List.drop_left]

theorem strayFrom_encode (offset : Nat) (c : Char) (rest : Text) :
    strayFrom offset 0 (String.utf8EncodeChar c ++ rest)
      = strayFrom (offset + c.utf8Size) 0 rest := by
  obtain ⟨a, tail, he, hf⟩ := first_encode c rest
  rw [he, List.cons_append, strayFrom, hf]
  dsimp only
  rw [strayFrom_eq_drop, ← length_encode he, Nat.add_sub_cancel, List.drop_left, Nat.add_assoc,
    Nat.add_comm 1]

theorem strayFrom_ofChars (offset : Nat) (cs : List Char) :
    strayFrom offset 0 (Text.ofChars cs) = none := by
  induction cs generalizing offset with
  | nil => rfl
  | cons c cs ih =>
    rw [Text.ofChars, List.flatMap_cons, strayFrom_encode]
    exact ih (offset + c.utf8Size)

/-- A text without a stray byte is written from characters. -/
theorem ofChars_of_strayFrom_eq_none {offset : Nat} {text : Text}
    (h : strayFrom offset 0 text = none) : ∃ cs, text = Text.ofChars cs := by
  induction text using decode_induction generalizing offset with
  | nil => exact ⟨[], rfl⟩
  | char c rest ih =>
    rw [strayFrom_encode] at h
    obtain ⟨cs, rfl⟩ := ih h
    exact ⟨c :: cs, rfl⟩
  | stray b rest hb ih =>
    obtain ⟨a, hf⟩ := (stray_iff b rest).mp hb
    rw [strayFrom, hf] at h
    cases h

end Utf8

namespace Text

open Utf8

@[simp] theorem symbols_ofChars (cs : List Char) :
    symbols (ofChars cs) = cs.map Symbol.char := by
  induction cs with
  | nil => rfl
  | cons c cs ih =>
    rw [ofChars, List.flatMap_cons, symbols, symbolsFrom_encode, List.map_cons]
    exact congrArg _ ih

/-- What is written from characters is read back as those characters. -/
@[simp] theorem chars_ofChars (cs : List Char) : chars (ofChars cs) = cs := by
  rw [chars, symbols_ofChars, List.map_map]
  exact List.map_id _

theorem ofChars_injective {cs ds : List Char} (h : ofChars cs = ofChars ds) : cs = ds := by
  rw [← chars_ofChars cs, h, chars_ofChars]

@[simp] theorem chars_ofChar (c : Char) : chars (ofChar c) = [c] := by
  have h := chars_ofChars [c]
  rwa [ofChars, List.flatMap_singleton] at h

theorem ofChar_injective {c d : Char} (h : ofChar c = ofChar d) : c = d := by
  have read := congrArg chars h
  rw [chars_ofChar, chars_ofChar] at read
  exact List.singleton_inj.mp read

/-- **Well-formed UTF-8 is what characters are written as**: no byte of a text is stray
exactly when the text encodes some characters. -/
theorem isUtf8_iff (text : Text) : text.isUtf8 = true ↔ ∃ cs, text = ofChars cs := by
  rw [isUtf8, firstStray?, Option.isNone_iff_eq_none]
  constructor
  · exact ofChars_of_strayFrom_eq_none
  · rintro ⟨cs, rfl⟩
    exact strayFrom_ofChars 0 cs

@[simp] theorem ofChars_cons (c : Char) (cs : List Char) :
    ofChars (c :: cs) = ofChar c ++ ofChars cs := List.flatMap_cons ..

@[simp] theorem ofChars_singleton (c : Char) : ofChars [c] = ofChar c := List.flatMap_singleton ..

theorem ofChars_append (cs ds : List Char) : ofChars (cs ++ ds) = ofChars cs ++ ofChars ds :=
  List.flatMap_append ..

/-- Characters in front of a text are read first, whatever the text is. -/
theorem chars_ofChars_append (cs : List Char) (text : Text) :
    chars (ofChars cs ++ text) = cs ++ chars text := by
  induction cs with
  | nil => rfl
  | cons c cs ih =>
    rw [ofChars_cons, List.append_assoc, chars, symbols, ofChar, symbolsFrom_encode, List.map_cons]
    exact congrArg (c :: ·) ih

/-- What is left of encoded characters behind some of them. -/
theorem exists_of_ofChars_append {front cs : List Char} {text : Text}
    (h : ofChars front ++ text = ofChars cs) :
    ∃ rest, cs = front ++ rest ∧ text = ofChars rest := by
  have read := congrArg chars h
  rw [chars_ofChars_append, chars_ofChars] at read
  refine ⟨chars text, read.symm, ?_⟩
  rw [← read, ofChars_append] at h
  exact List.append_cancel_left h

theorem charCount_eq (text : Text) : text.charCount = text.chars.length :=
  (List.length_map _).symm

@[simp] theorem charCount_ofChars (cs : List Char) : (ofChars cs).charCount = cs.length := by
  rw [charCount_eq, chars_ofChars]

theorem ofChar_of_ascii {c : Char} (low : c.toNat < 0x80) :
    ofChar c = [UInt8.ofNat c.toNat] := by
  rw [ofChar, String.utf8EncodeChar]
  exact if_pos (Nat.le_of_lt_succ low)

/-- Escaping bytes one by one, those below 0x80 only, is escaping characters one by one. -/
theorem flatMap_ofChars {f : UInt8 → Text} {escaped : Char → List Char}
    (ascii : ∀ n < 0x80, f (UInt8.ofNat n) = ofChars (escaped (Char.ofNat n)))
    (bytes : ∀ b : UInt8, 0x80 ≤ b.toNat → f b = [b])
    (chars : ∀ c : Char, 0x80 ≤ c.toNat → escaped c = [c]) (cs : List Char) :
    (ofChars cs).flatMap f = ofChars (cs.flatMap escaped) := by
  induction cs with
  | nil => rfl
  | cons c cs ih =>
    rw [ofChars_cons, List.flatMap_append, List.flatMap_cons, ofChars_append, ih]
    congr 1
    have shape := shape_encode c
    by_cases low : c.toNat < 0x80
    · rw [ofChar_of_ascii low, List.flatMap_singleton, ascii c.toNat low, Char.ofNat_toNat]
    · have high : ∀ b ∈ ofChar c, f b = [b] := by
        intro b mem
        refine bytes b (Nat.le_of_not_lt fun lowByte => ?_)
        exact low ((shape_of_ascii shape mem lowByte).2 ▸ lowByte)
      rw [chars c (Nat.le_of_not_lt low), List.flatMap_congr high, ofChars_singleton]
      exact List.flatMap_singleton' _

/-! ## Cutting -/

theorem isUtf8_concat_ascii {b : UInt8} (ascii : b.toNat < 0x80) (text : Text) :
    (text ++ [b]).isUtf8 = true ↔ text.isUtf8 = true := by
  rw [isUtf8_iff, isUtf8_iff]
  constructor
  · rintro ⟨cs, whole⟩
    rcases List.eq_nil_or_concat cs with rfl | ⟨front, c, rfl⟩
    · exact absurd whole (List.append_ne_nil_of_right_ne_nil text (List.cons_ne_nil b []))
    · rw [List.concat_eq_append, ofChars_append, ofChars_singleton] at whole
      -- the last character ends in the byte, so it is that byte
      have last : b ∈ ofChar c := by
        have some : ofChar c ≠ [] := String.utf8EncodeChar_ne_nil
        have ends := congrArg List.getLast? whole
        rw [List.getLast?_concat, List.getLast?_append_of_ne_nil _ some] at ends
        exact List.mem_of_getLast? ends.symm
      rw [ofChar, (shape_of_ascii (shape_encode c) last ascii).1] at whole
      exact ⟨front, List.append_cancel_right whole⟩
  · rintro ⟨cs, rfl⟩
    have byte : ofChar (Char.ofNat b.toNat) = [b] := encode_of_shape (.one ascii rfl)
    exact ⟨cs ++ [Char.ofNat b.toNat], by rw [ofChars_append, ofChars_singleton, byte]⟩

/-- ASCII behind a text does not make up for what is missing at its end. -/
theorem isUtf8_append_ascii {tail : Text} (ascii : tail.all (·.toNat < 0x80) = true)
    (text : Text) : (text ++ tail).isUtf8 = true ↔ text.isUtf8 = true := by
  induction tail generalizing text with
  | nil => rw [List.append_nil]
  | cons b tail ih =>
    rw [List.all_cons, Bool.and_eq_true, decide_eq_true_eq] at ascii
    rw [List.append_cons, ih ascii.2, isUtf8_concat_ascii ascii.1]

/-- **Cutting a text at a byte** leaves it well-formed exactly when some number of its characters
takes just the bytes in front of the cut. -/
theorem isUtf8_take_iff {text : Text} (valid : text.isUtf8 = true) {n : Nat}
    (within : n ≤ text.length) :
    isUtf8 (text.take n) = true ↔ ∃ k, (ofChars (text.chars.take k)).length = n := by
  obtain ⟨cs, rfl⟩ := (isUtf8_iff text).mp valid
  rw [chars_ofChars, isUtf8_iff]
  constructor
  · rintro ⟨front, cut⟩
    have whole := List.take_append_drop n (ofChars cs)
    rw [cut] at whole
    obtain ⟨rest, rfl, -⟩ := exists_of_ofChars_append whole
    refine ⟨front.length, ?_⟩
    rw [List.take_left, ← cut, List.length_take, Nat.min_eq_left within]
  · rintro ⟨k, bytes⟩
    refine ⟨cs.take k, ?_⟩
    have whole : ofChars cs = ofChars (cs.take k) ++ ofChars (cs.drop k) := by
      rw [← ofChars_append, List.take_append_drop]
    rw [whole, ← bytes, List.take_left]

/-! ## Stray bytes -/

theorem chars_ofChar_append (c : Char) (text : Text) :
    chars (ofChar c ++ text) = c :: chars text := by
  rw [← ofChars_singleton, chars_ofChars_append, List.singleton_append]

theorem chars_stray {b : UInt8} {rest : Text} (h : Stray b rest) :
    chars (b :: rest) = Symbol.replacement :: chars rest := by
  obtain ⟨a, hf⟩ := (stray_iff b rest).mp h
  rw [chars, symbols, symbolsFrom, hf]
  rfl

/-- `Repaired text whole`: reading `text` from the left, each stray byte gives U+FFFD in `whole`
and all else stays. -/
inductive Repaired : Text → Text → Prop where
  | nil : Repaired [] []
  | char {rest whole : Text} (c : Char) :
      Repaired rest whole → Repaired (ofChar c ++ rest) (ofChar c ++ whole)
  | stray {b : UInt8} {rest whole : Text} :
      Stray b rest → Repaired rest whole → Repaired (b :: rest) (ofChar Symbol.replacement ++ whole)

/-- A text is repaired in one way: it is written from the characters it is read as. -/
theorem repaired_iff (text whole : Text) : Repaired text whole ↔ whole = ofChars text.chars := by
  constructor
  · intro repaired
    induction repaired with
    | nil => rfl
    | char c _ ih => rw [chars_ofChar_append, ofChars_cons, ih]
    | stray h _ ih => rw [chars_stray h, ofChars_cons, ih]
  · rintro rfl
    induction text using decode_induction with
    | nil => exact .nil
    | char c rest ih =>
      show Repaired (ofChar c ++ rest) (ofChars (chars (ofChar c ++ rest)))
      rw [chars_ofChar_append, ofChars_cons]
      exact .char c ih
    | stray b rest h ih =>
      rw [chars_stray h, ofChars_cons]
      exact .stray h ih

/-- A text without stray bytes is written from the characters it is read as. -/
theorem ofChars_chars {text : Text} (valid : text.isUtf8 = true) : ofChars text.chars = text := by
  obtain ⟨cs, rfl⟩ := (isUtf8_iff text).mp valid
  rw [chars_ofChars]

end Text

end DatePattern
