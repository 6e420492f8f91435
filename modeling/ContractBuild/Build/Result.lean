import ContractBuild.Diagnostic.Basic
import ContractBuild.Text.Utf8

/-!
# Results of a build

A build ends with an artifact or with errors. That an artifact has at least one byte and a
failure at least one error belongs to the types, and `BuildSuccess.make` and
`BuildFailure.make` refuse everything else.
-/

set_option autoImplicit false

namespace ContractBuild

/-- Why a build failed. -/
inductive FailureKind
  | diagnostics
  | timeout
  | toolchainUnavailable
  | environment
  deriving DecidableEq, Repr

namespace FailureKind

/-- All kinds of failure. -/
def all : List FailureKind := [diagnostics, timeout, toolchainUnavailable, environment]

/-- The name of a kind of failure. -/
def name : FailureKind → Text
  | diagnostics => "diagnostics"
  | timeout => "timeout"
  | toolchainUnavailable => "toolchain_unavailable"
  | environment => "environment"

/-- The kind of failure that a name stands for. -/
def ofName? (name : Text) : Option FailureKind :=
  all.find? (·.name = name)

theorem ofName?_name (k : FailureKind) : ofName? k.name = some k := by
  cases k <;> decide

end FailureKind

/-! ## Success and failure -/

/-- A build that produced an artifact. A placeholder only shows that the source compiles and
is never to be deployed. -/
structure BuildSuccess where
  artifact : Bytes
  abi : Option Text := none
  warnings : List Diagnostic := []
  gas : Option Text := none
  placeholder : Bool := false
  artifact_ne_nil : artifact ≠ []
  deriving DecidableEq, Repr

/-- A build that stopped before it produced an artifact. -/
structure BuildFailure where
  errors : List Diagnostic
  warnings : List Diagnostic := []
  kind : FailureKind := .diagnostics
  errors_ne_nil : errors ≠ []
  deriving DecidableEq, Repr

/-- Why parts do not make a result. -/
inductive ResultFault
  | emptyArtifact
  | noErrors
  deriving DecidableEq, Repr

/-- The wording of a fault. -/
def ResultFault.message : ResultFault → Text
  | emptyArtifact => "A successful build must carry a non-empty artifact"
  | noErrors => "A failed build must carry at least one error"

namespace BuildSuccess

/-- A success, if there is an artifact. -/
def make (artifact : Bytes) (abi : Option Text) (warnings : List Diagnostic)
    (gas : Option Text) (placeholder : Bool) : Except ResultFault BuildSuccess :=
  if h : artifact = [] then .error .emptyArtifact
  else .ok ⟨artifact, abi, warnings, gas, placeholder, h⟩

/-- The size of the artifact in bytes. -/
def size (s : BuildSuccess) : Nat :=
  s.artifact.length

/-- The artifact in base sixteen. -/
def bytecode (s : BuildSuccess) : Text :=
  '0' :: 'x' :: Text.hexOfBytes s.artifact

end BuildSuccess

namespace BuildFailure

/-- A failure, if there is an error. -/
def make (errors warnings : List Diagnostic) (kind : FailureKind) :
    Except ResultFault BuildFailure :=
  if h : errors = [] then .error .noErrors else .ok ⟨errors, warnings, kind, h⟩

/-- A failure for one reason. -/
def ofError (error : Diagnostic) (kind : FailureKind) (warnings : List Diagnostic := []) :
    BuildFailure :=
  ⟨[error], warnings, kind, List.cons_ne_nil _ _⟩

/-- Whether the build ran out of time. -/
def timedOut (f : BuildFailure) : Bool :=
  f.kind = .timeout

end BuildFailure

/-- How a build ended. -/
inductive BuildResult
  | success (s : BuildSuccess)
  | failure (f : BuildFailure)
  deriving DecidableEq, Repr

/-- Whether the build produced an artifact. -/
def BuildResult.succeeded : BuildResult → Bool
  | success _ => true
  | failure _ => false

/-! ## Syntax checks -/

/-- The verdict of a check that builds nothing. -/
structure SyntaxCheck where
  valid : Bool
  errors : List Diagnostic := []
  deriving DecidableEq, Repr

end ContractBuild
