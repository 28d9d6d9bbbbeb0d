import DatePattern.Batch.Compile
import DatePattern.Cli.Flag
import DatePattern.Config.Basic
import DatePattern.Verify.Targets

/-!
# Failures

Why the program stops without having done what it was asked. Each cause has one wording.
-/

namespace DatePattern.Cli

/-- Why the words of a command do not suit it. -/
inductive UsageError where
  | flag (cause : FlagError)
  /-- A word that a command does not take; with names that may have been meant. -/
  | unknownCommand (word path : Text) (near : List Text)
  | wrongCount (wanted received : Nat)
  | tooMany (limit received : Nat)
  | tooFew (least received : Nat)
  | notAChoice (word path : Text)
  deriving DecidableEq, Repr

/-- The line of a name that may have been meant. -/
def nearLine (name : Text) : Text := "\t" ++ name ++ "\n"

/-- The names that may have been meant. -/
def nearText (near : List Text) : Text :=
  if near.isEmpty then [] else "\n\nDid you mean this?\n" ++ near.flatMap nearLine

/-- The wording of a usage error. -/
def UsageError.message : UsageError → Text
  | .flag cause => cause.message
  | .unknownCommand word path near =>
    "unknown command " ++ word.quoted ++ " for " ++ path.quoted ++ nearText near
  | .wrongCount wanted received =>
    "accepts " ++ Decimal.ofNat wanted ++ " arg(s), received " ++ Decimal.ofNat received
  | .tooMany limit received =>
    "accepts at most " ++ Decimal.ofNat limit ++ " arg(s), received " ++ Decimal.ofNat received
  | .tooFew least received =>
    "requires at least " ++ Decimal.ofNat least ++ " arg(s), only received "
      ++ Decimal.ofNat received
  | .notAChoice word path => "invalid argument " ++ word.quoted ++ " for " ++ path.quoted

/-- Why the program failed. -/
inductive Failure where
  | usage (cause : UsageError)
  | config (cause : ConfigError)
  | dialect (cause : DialectError)
  /-- A format cannot be compiled for a dialect. -/
  | compile (format : Text) (failure : DialectFailure)
  /-- A format cannot be explained. -/
  | explain (cause : CompileError)
  | formats (cause : Batch.FormatsError)
  /-- Formats of a batch are rejected. -/
  | batch (rejections : List Batch.Rejection)
  | selection (cause : Verify.SelectionError)
  | run (cause : Verify.RunError)
  /-- A verification found a difference or did not reach a target. -/
  | unverified
  deriving DecidableEq, Repr

/-- The wording of a failure. -/
def Failure.message : Failure → Text
  | .usage cause => cause.message
  | .config cause => cause.message
  | .dialect cause => cause.message
  | .compile format failure =>
    "failed to compile " ++ format.quoted ++ " for " ++ failure.dialect ++ ": "
      ++ failure.cause.message
  | .explain cause => cause.message
  | .formats cause => cause.message
  | .batch rejections => Batch.Rejection.messages rejections
  | .selection cause => cause.message
  | .run cause => cause.message
  | .unverified => "verification failed"

end DatePattern.Cli
