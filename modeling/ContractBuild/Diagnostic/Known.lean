import ContractBuild.Diagnostic.Basic
import ContractBuild.Text.Blank
import ContractBuild.Text.Digit
import ContractBuild.Text.Line

/-!
# Known contract failures

The contract tool reports some failures in free text. They are recognised by a marker that
stands anywhere in a line, and reported in words of their own.
-/

set_option autoImplicit false

namespace ContractBuild

open Text (isBlank isDigit)

/-- A failure of the contract tool that is known by its marker. Its message may speak of the
size that the line mentions. -/
structure KnownFailure where
  marker : Text
  message : Text → Text
  suggestion : Text

namespace KnownFailure

/-- The contract is larger than the chain allows. -/
def size : KnownFailure where
  marker := "contract exceeds maximum size"
  message size := "Contract size (" ++ size ++ "KB) exceeds maximum allowed size (24KB)"
  suggestion := "Enable release optimizations or reduce contract complexity"

/-- The constructor needs more gas than a block has. -/
def gasLimit : KnownFailure where
  marker := "exceeds gas limit"
  message _ := "Contract initialization exceeds gas limit"
  suggestion := "Reduce initialization complexity or storage operations"

/-- The storage of the contract has no valid layout. -/
def storageLayout : KnownFailure where
  marker := "invalid storage layout"
  message _ := "Invalid storage layout detected"
  suggestion := "Ensure #[storage] struct follows Stylus SDK patterns"

/-- The contract has no entry point. -/
def entrypoint : KnownFailure where
  marker := "no entrypoint"
  message _ := "Contract must have an #[entrypoint] attribute"
  suggestion := "Add #[entrypoint] to your main storage struct"

/-- All known failures, in the order in which a line is searched for them. -/
def all : List KnownFailure := [size, gasLimit, storageLayout, entrypoint]

/-- Whether a text holds the marker of a known failure. -/
def marks (t : Text) : Bool :=
  all.any fun f => Text.contains f.marker t

end KnownFailure

/-! ## Numbers before a unit -/

/-- The first run of digits that `unit` follows, with blanks between them or, if
`needsBlank`, at least one. `inRun` tells that the character before belongs to a run that is
already tried. -/
def runBefore? (needsBlank : Bool) (unit : Text) (inRun : Bool) : Text → Option Text
  | [] => none
  | c :: rest =>
    if isDigit c && !inRun then
      let after := rest.dropWhile isDigit
      let spaced := after.head?.any isBlank || !needsBlank
      if spaced && unit.isPrefixOf (after.dropWhile isBlank) then
        some (c :: rest.takeWhile isDigit)
      else runBefore? needsBlank unit true rest
    else runBefore? needsBlank unit (isDigit c) rest

/-- The number of kilobytes that a line mentions, as it is written. -/
def kilobytes? (line : Text) : Option Text :=
  runBefore? false "KB" false line

/-- The amount of gas that an output mentions, as it is written. -/
def gasMention? (output : Text) : Option Text :=
  runBefore? true "gas" false output

/-! ## Reading -/

/-- The failure that a line reports, in its own words. -/
def KnownFailure.diagnostic (f : KnownFailure) (line : Text) : Diagnostic :=
  { severity := .error
    message := f.message ((kilobytes? line).getD "unknown")
    suggestion := some f.suggestion }

/-- The known failures that a line reports. -/
def KnownFailure.ofLine (line : Text) : List Diagnostic :=
  (all.filter fun f => Text.contains f.marker line).map (·.diagnostic line)

/-- The known failures in an output: line by line, and on a line in the order of the table. -/
def Diagnostic.parseKnown (output : Text) : List Diagnostic :=
  (Text.lines output).flatMap KnownFailure.ofLine

end ContractBuild
