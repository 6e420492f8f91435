import ContractBuild.Diagnostic.Known
import ContractBuild.Diagnostic.Merge
import ContractBuild.Diagnostic.Parser
import ContractBuild.Host.Child

/-!
# Stages and their output

A stage of a build is one run of a tool. Its output is split into the errors, which fail the
stage, and the other diagnostics, which do not. Errors are what the compiler reports and the
known contract failures; a line that only sums up other errors counts as an error when it is
the only one, and a stage that exits with another code than zero always has an error.
-/

set_option autoImplicit false

namespace ContractBuild

open Text (TooManyDigits after? isDigit)

/-- What a stage reports, split by whether it fails the stage. -/
structure StageReport where
  errors : List Diagnostic
  others : List Diagnostic
  deriving DecidableEq, Repr

namespace StageReport

/-! ## Summaries -/

/-- Whether a text starts with digits that a warning count goes on with. -/
def countsWarnings (t : Text) : Bool :=
  match t.span isDigit with
  | (_ :: _, rest) => (after? " warning" rest).isSome
  | _ => false

/-- Whether a line says how many warnings something generated. -/
def tellsWarnings : Text → Bool
  | [] => false
  | c :: rest => (after? " generated " (c :: rest)).any countsWarnings || tellsWarnings rest

/-- Whether a message sums up other messages. Only its first line counts for the number of
warnings. -/
def isSummary (message : Text) : Bool :=
  (after? "could not compile" message).isSome || (after? "aborting due to" message).isSome ||
    tellsWarnings (message.takeWhile (· ≠ '\n'))

/-! ## Interpretation -/

/-- The diagnostics of an output: what the compiler says on the error stream, apart from the
known failures, and these from both streams. -/
def diagnostics (output : CommandOutput) : Except TooManyDigits (List Diagnostic) :=
  (Diagnostic.parse output.stderr).map fun parsed =>
    parsed.filter (fun d => !KnownFailure.marks d.message) ++
      Diagnostic.parseKnown (output.stdout ++ '\n' :: output.stderr)

/-- The errors without those that sum up, unless nothing else is left. -/
def withoutSummaries (errors : List Diagnostic) : List Diagnostic :=
  let proper := errors.filter fun d => !isSummary d.message
  if errors.length ≤ 1 || proper.isEmpty then errors else proper

/-- The error of a stage that failed without a word. -/
def silentFailure (stage : Text) (exitCode : Int) : Diagnostic :=
  .error ('\'' :: stage ++ "' failed with exit code " ++ Text.ofInt exitCode)

/-- The report of a list of diagnostics. -/
def ofDiagnostics (stage : Text) (exitCode : Int) (ds : List Diagnostic) : StageReport :=
  let errors := withoutSummaries (ds.filter (·.isError))
  { errors := if errors.isEmpty && exitCode != 0 then [silentFailure stage exitCode] else errors
    others := ds.filter fun d => !d.isError && !isSummary d.message }

/-- The report of a stage. -/
def ofOutput (stage : Text) (output : CommandOutput) : Except TooManyDigits StageReport :=
  (diagnostics output).map (ofDiagnostics stage output.exitCode)

end StageReport

end ContractBuild
