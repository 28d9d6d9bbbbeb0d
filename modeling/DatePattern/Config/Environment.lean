import DatePattern.Text.Basic

/-!
# Environments

The variables of a process, and the expansion of references `${NAME}` in a text. A
reference to a variable that is unset or empty stays as it is, and what a variable holds is
not expanded again.
-/

namespace DatePattern

/-- The variables of a process, each name once. -/
abbrev Environment := List (Text × Text)

namespace Environment

/-- The value of a variable, empty when it is unset. -/
def value (env : Environment) (name : Text) : Text := (env.lookup name).getD []

/-- What a reference stands for. -/
def reference (env : Environment) (name : Text) : Text :=
  if (env.value name).isEmpty then "$\x7b" ++ name ++ "\x7d" else env.value name

/-- Whether a byte belongs to the name of a reference. -/
def isNameByte (b : UInt8) : Bool := b != 0x7D

/-- Replaces the references in a text. A name has at least one byte and ends at the first
closing brace. -/
def expand (env : Environment) (text : Text) : Text :=
  match text with
  | [] => []
  | 0x24 :: 0x7B :: rest =>
    let name := rest.takeWhile isNameByte
    match _h : rest.dropWhile isNameByte with
    | _ :: after =>
      if name.isEmpty then 0x24 :: 0x7B :: expand env rest
      else env.reference name ++ expand env after
    | [] => text
  | b :: rest => b :: expand env rest
termination_by text.length
decreasing_by
  · simp only [List.length_cons]
    omega
  · have hle : (rest.dropWhile isNameByte).length ≤ rest.length :=
      (List.dropWhile_sublist isNameByte).length_le
    rw [_h] at hle
    simp only [List.length_cons] at hle ⊢
    omega
  · exact Nat.lt_succ_self rest.length

/-- The name of a reference that starts a text after its opening brace, if it is one. -/
def nameAt? (text : Text) : Option Text :=
  match text with
  | 0x24 :: 0x7B :: rest => if rest.contains 0x7D then some (rest.takeWhile isNameByte) else none
  | _ => none

/-- The names that a text may refer to. -/
def names : Text → List Text
  | [] => []
  | b :: rest => (nameAt? (b :: rest)).toList ++ names rest

end Environment

end DatePattern
