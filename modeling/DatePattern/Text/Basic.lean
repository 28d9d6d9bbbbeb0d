/-!
# Texts

A text is a string of bytes. Most texts are UTF-8, but nothing here asks for it:
a column name, a format or a query may hold any bytes, and what is written around
them never changes them. A `String` literal stands for its UTF-8 bytes.

The operations are the usual ones on byte strings: joining, cutting, splitting,
replacing and the bytewise order. Each is a recursion on the list of bytes.
-/

namespace DatePattern

/-- A string of bytes. -/
abbrev Text := List UInt8

namespace Text

/-- The UTF-8 bytes of a string. -/
def ofString (s : String) : Text := s.toByteArray.data.toList

instance : Coe String Text := ⟨ofString⟩

/-- The byte of an ASCII character. -/
def byte (c : Char) : UInt8 := UInt8.ofNat c.toNat

/-! ### Joining -/

/-- The parts in order, with `separator` between neighbours. -/
def joinWith (separator : Text) : List Text → Text
  | [] => []
  | [last] => last
  | part :: rest => part ++ separator ++ joinWith separator rest

/-- The parts in order, each followed by a line feed. -/
def unlines (lines : List Text) : Text := lines.flatMap (· ++ "\n")

/-- `n` copies of a byte. -/
def repeated (n : Nat) (b : UInt8) : Text := List.replicate n b

/-! ### Searching -/

/-- The part of a text before the first occurrence of `needle`, and the part after it. -/
def cut? (needle : Text) : Text → Option (Text × Text)
  | [] => if needle.isEmpty then some ([], []) else none
  | b :: rest =>
    if needle.isPrefixOf (b :: rest) then some ([], (b :: rest).drop needle.length)
    else (cut? needle rest).map fun (before, after) => (b :: before, after)

/-- Whether `needle` occurs in a text. -/
def includes (text needle : Text) : Bool := (cut? needle text).isSome

/-- `text` without `lead` at its front, or `text` itself when it does not start so. -/
def withoutLead (text lead : Text) : Text :=
  if lead.isPrefixOf text then text.drop lead.length else text

/-! ### Replacing -/

/-- Replaces each occurrence of a non-empty `old` from the left, after `skip` bytes that
belong to an occurrence already replaced. -/
def replaceFrom (old new : Text) : (skip : Nat) → Text → Text
  | _, [] => []
  | skip + 1, _ :: rest => replaceFrom old new skip rest
  | 0, b :: rest =>
    if old.isPrefixOf (b :: rest) then new ++ replaceFrom old new (old.length - 1) rest
    else b :: replaceFrom old new 0 rest

/-- Replaces each occurrence of a non-empty `old` by `new`, from the left and without overlap. -/
def replace (text old new : Text) : Text := replaceFrom old new 0 text

/-- Replaces one byte by a text wherever it occurs. -/
def replaceByte (text : Text) (old : UInt8) (new : Text) : Text :=
  text.flatMap fun b => if b = old then new else [b]

/-- Counts the occurrences of a non-empty `needle` from the left and without overlap,
after `skip` bytes of an occurrence already counted. -/
def countFrom (needle : Text) : (skip : Nat) → Text → Nat
  | _, [] => 0
  | skip + 1, _ :: rest => countFrom needle skip rest
  | 0, b :: rest =>
    if needle.isPrefixOf (b :: rest) then 1 + countFrom needle (needle.length - 1) rest
    else countFrom needle 0 rest

/-- How often a non-empty `needle` occurs, from the left and without overlap. -/
def occurrences (text needle : Text) : Nat := countFrom needle 0 text

/-! ### Splitting -/

/-- The segments of a text between the bytes equal to `separator`; there is always one more
segment than separators. -/
def splitAtByte (separator : UInt8) : Text → List Text
  | [] => [[]]
  | b :: rest =>
    match splitAtByte separator rest with
    | [] => [[b]]
    | segment :: segments =>
      if b = separator then [] :: segment :: segments else (b :: segment) :: segments

/-- The lines of a text: its segments between line feeds. -/
def lines (text : Text) : List Text := splitAtByte 0x0A text

/-! ### Trimming -/

/-- Drops the trailing bytes that satisfy `p`. -/
def trimRightWhile (p : UInt8 → Bool) (text : Text) : Text :=
  (text.reverse.dropWhile p).reverse

/-- Drops the leading and trailing bytes that satisfy `p`. -/
def trimWhile (p : UInt8 → Bool) (text : Text) : Text :=
  trimRightWhile p (text.dropWhile p)

/-! ### Order -/

/-- Bytewise lexicographic order; a proper prefix comes first. -/
def le : Text → Text → Bool
  | [], _ => true
  | _ :: _, [] => false
  | a :: as, b :: bs => a < b || (a == b && le as bs)

/-- Puts an element before the first element whose key is greater. -/
def insertBy (key : α → Text) (x : α) : List α → List α
  | [] => [x]
  | y :: ys => if le (key x) (key y) then x :: y :: ys else y :: insertBy key x ys

/-- Sorts by a key in bytewise order; elements with equal keys keep their order. -/
def sortBy (key : α → Text) (xs : List α) : List α := xs.foldr (insertBy key) []

/-- Sorts texts in bytewise order. -/
def sort (texts : List Text) : List Text := sortBy id texts

end Text

end DatePattern
