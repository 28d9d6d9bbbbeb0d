import DatePattern.Capability
import DatePattern.Pattern.Basic

/-!
# Resolutions and fragments

The decision taken for one token on one engine, and the units of output before they are
concatenated: one call of the engine's date function for each longest run of tokens that need no
recipe, and one fragment for each recipe.
-/

namespace DatePattern

/-!
## Resolutions

An escaped token is literal. Otherwise a rejected character is an error, a character of the
engine's table follows its entry, and any other character is literal.
-/

/-- How a token is produced. -/
inductive Manner where
  /-- Its text is copied. -/
  | literal
  /-- By a specifier of the engine's date function. -/
  | native
  /-- By a recipe. -/
  | emulated
  /-- In no way that is known. -/
  | unknown
  deriving DecidableEq, Repr

/-- The name of a manner. -/
def Manner.name : Manner → Text
  | .literal => "literal"
  | .native => "native"
  | .emulated => "emulated"
  | .unknown => "unknown"

/-- The decision taken for one token. -/
structure Resolution where
  /-- How the token is produced. -/
  manner : Manner
  /-- The token. -/
  token : Token
  /-- The engine's specifier, empty when there is none. -/
  native : Text := []
  /-- The recipe, if there is one. -/
  recipe? : Option Recipe := none
  deriving DecidableEq

/-- Why a format cannot be compiled. -/
inductive CompileError where
  /-- The dialect is not one of an engine. -/
  | dialect (cause : DialectError)
  /-- The format is not accepted. -/
  | pattern (cause : PatternError)
  deriving DecidableEq, Repr

/-- The wording of a compile error. -/
def CompileError.message : CompileError → Text
  | .dialect cause => cause.message
  | .pattern cause => cause.message

namespace Resolution

/-- A short description for diagnostics. -/
def describe (resolution : Resolution) : Text :=
  match resolution.manner, resolution.recipe? with
  | .native, _ => resolution.native
  | .emulated, some recipe => recipe.describe
  | .emulated, none => []
  | _, _ => resolution.token.text.quoted

/-- The resolution of a token by an entry of a table. -/
def ofCapability? (token : Token) : Option Capability → Resolution
  | some (.emulated recipe) => { manner := .emulated, token, recipe? := some recipe }
  | some (.native specifier) => { manner := .native, token, native := specifier }
  | none => { manner := .literal, token }

/-- The resolution of a token on an engine. -/
def resolve (engine : Engine) (token : Token) : Except PatternError Resolution :=
  if token.literal then .ok { manner := .literal, token }
  else if Charset.isUnsupported token.char then .error (.unsupported token.char token.pos)
  else .ok (ofCapability? token (engine.capability? token.char))

/-- The resolutions of a list of tokens, or the error of the first that has one. -/
def resolveAll (engine : Engine) : List Token → Except PatternError (List Resolution)
  | [] => .ok []
  | token :: rest => do
    let first ← resolve engine token
    let others ← resolveAll engine rest
    return first :: others

end Resolution

/-! ## Fragments -/

/-- A unit of output. -/
structure Fragment where
  /-- Whether the fragment is one recipe; otherwise it is a call of the date function. -/
  emulated : Bool
  /-- The resolutions in the order of the format. -/
  parts : List Resolution
  deriving DecidableEq

namespace Fragment

/-- The name of a fragment's kind. -/
def kindName (fragment : Fragment) : Text := if fragment.emulated then "emulated" else "native"

/-- Puts a resolution in front of fragments: a recipe stands alone, anything else joins the
native fragment behind it. -/
def push (r : Resolution) (fragments : List Fragment) : List Fragment :=
  if r.manner = .emulated then ⟨true, [r]⟩ :: fragments
  else
    match fragments with
    | ⟨false, parts⟩ :: rest => ⟨false, r :: parts⟩ :: rest
    | _ => ⟨false, [r]⟩ :: fragments

/-- The fragments of a list of resolutions. -/
def coalesce (resolutions : List Resolution) : List Fragment := resolutions.foldr push []

end Fragment

end DatePattern
