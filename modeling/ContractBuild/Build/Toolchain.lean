import ContractBuild.Build.Report
import ContractBuild.Build.Stage
import ContractBuild.Build.Workspace
import ContractBuild.Host.Process
import ContractBuild.Settings.Basic

/-!
# The native toolchain

Building a contract with the tools of the host. A fast check comes first, then the build; of
an artifact the interface and an amount of gas are asked for, which need not succeed. A check
of the syntax alone runs the compiler on a smaller manifest.
-/

set_option autoImplicit false

namespace ContractBuild.Toolchain

/-! ## Diagnostics of the build itself -/

/-- The contract tool is missing. -/
def missingDiagnostic : Diagnostic :=
  { severity := .error
    message := "cargo-stylus is not installed. " ++ installHint
    suggestion := some installHint }

/-- The compiler is missing. -/
def compilerMissing : Diagnostic :=
  { severity := .error
    message := "cargo is not installed. Install Rust from https://rustup.rs"
    suggestion := some "Install Rust from https://rustup.rs" }

/-- A stage used up its time. -/
def timeoutDiagnostic (e : Overrun) : Diagnostic :=
  { severity := .error
    message := "Build timed out: " ++ e.message
    suggestion := some
      "Retry the build; if it keeps timing out, reduce contract size or dependencies" }

/-- The build left no artifact, or an empty one. -/
def artifactDiagnostic (isFile : Bool) (place : Text) : Diagnostic :=
  let what : Text := if isFile then "Build succeeded but produced an empty artifact at "
    else "Build succeeded but no artifact was found at "
  { severity := .error
    message := what ++ place
    suggestion := some ("Check that the wasm32-unknown-unknown target is installed: " ++
      "rustup target add wasm32-unknown-unknown") }

/-- The interface could not be exported. -/
def abiWarning : Diagnostic := .warning "Failed to export ABI"

/-! ## Commands -/

/-- The tool in a directory, with these arguments. -/
def command (s : Settings) (directory : Option Path) (arguments : List Text) : Command :=
  ⟨s.cargo, arguments, directory⟩

/-- Asks the contract tool for its version. -/
def versionCommand (s : Settings) : Command :=
  command s none ["stylus", "--version"]

/-- Asks the compiler for its version. -/
def compilerVersionCommand (s : Settings) : Command :=
  command s none ["--version"]

/-- Checks a contract. -/
def checkCommand (s : Settings) (w : Workspace) : Command :=
  command s (some w.root) ["stylus", "check"]

/-- Builds a contract. -/
def buildCommand (s : Settings) (w : Workspace) : Command :=
  command s (some w.root) ["build", "--release", "--target", Manifest.wasmTarget]

/-- Exports the interface of a contract. -/
def abiCommand (s : Settings) (w : Workspace) : Command :=
  command s (some w.root) ["stylus", "export-abi"]

/-- Estimates the gas of a contract. -/
def gasCommand (s : Settings) (w : Workspace) : Command :=
  command s (some w.root) ["stylus", "estimate-gas"]

/-- Checks the syntax of a crate. -/
def syntaxCommand (s : Settings) (w : Workspace) : Command :=
  command s (some w.root) ["check"]

/-! ## Probes -/

/-- The version in the output of a probe, if it succeeded and says anything. -/
def versionOf (out : TimedOutput) : Option Text :=
  let version := Text.strip out.stdout
  if out.exitCode != 0 || version.isEmpty then none else some version

/-- The version of the contract tool, or none if it cannot be used. -/
def version (s : Settings) : Run (Option Text) := do
  match ← Run.tryCommand (versionCommand s) s.probeTimeout with
  | .ok out => return versionOf out
  | .error e => do
    Run.log .debug ("cargo-stylus probe failed: " ++ e.message)
    return none

/-- Whether the contract tool can be used. -/
def isAvailable (s : Settings) : Run Bool := do
  return (← version s).isSome

/-- Whether the compiler can be used. -/
def hasCompiler (s : Settings) : Run Bool := do
  match ← Run.tryCommand (compilerVersionCommand s) s.probeTimeout with
  | .ok out => return out.exitCode == 0
  | .error _ => return false

/-! ## Stages -/

/-- The report on the output of a stage. -/
def interpret (stage : Text) (out : TimedOutput) : Run StageReport :=
  Run.answer .digits (StageReport.ofOutput stage out.toCommandOutput)

/-- The content of the artifact; none if there is no file. -/
def artifact (w : Workspace) : Run Bytes := do
  if ← Run.ask (·.isFile w.artifactPath) then Run.ask (·.read w.artifactPath) else return []

/-- The interface of the contract, if it can be exported. -/
def abi (s : Settings) (w : Workspace) : Run (Option Text) := do
  match ← Run.tryCommand (abiCommand s w) s.abiTimeout with
  | .error e => do
    Run.log .warning ("ABI export failed: " ++ e.message)
    return none
  | .ok out =>
    let text := Text.strip out.stdout
    if out.exitCode != 0 || text.isEmpty then do
      Run.log .warning ("ABI export failed with exit code " ++ Text.ofInt out.exitCode)
      return none
    else return some text

/-- The gas in the output of an estimate, if it succeeded. -/
def gasOf (out : TimedOutput) : Option Text :=
  if out.exitCode = 0 then gasMention? out.stdout else none

/-- The gas of the contract, if it can be estimated. -/
def gas (s : Settings) (w : Workspace) : Run (Option Text) := do
  match ← Run.tryCommand (gasCommand s w) s.gasTimeout with
  | .error e => do
    Run.log .debug ("Gas estimation skipped: " ++ e.message)
    return none
  | .ok out => return gasOf out

/-- How many errors there are, in words. -/
def countText (errors : List Diagnostic) : Text :=
  Text.ofNat errors.length ++ " error(s)"

/-- What is known once an artifact is there. -/
def package (s : Settings) (w : Workspace) (warnings : List Diagnostic) (bytes : Bytes)
    (h : bytes ≠ []) : Run BuildResult := do
  let abi ← abi s w
  let gas ← gas s w
  Run.log .info ("Build successful: " ++ Text.ofNat bytes.length ++ " bytes")
  return .success
    { artifact := bytes, abi, gas, artifact_ne_nil := h
      warnings := if abi.isNone then warnings ++ [abiWarning] else warnings }

/-- The end of a build whose stages succeeded: with an artifact or without one. -/
def finish (s : Settings) (w : Workspace) (warnings : List Diagnostic) : Run BuildResult := do
  match ← artifact w with
  | [] => do
    Run.log .error ("Artifact missing or empty at " ++ w.artifactPath.text)
    let isFile ← Run.ask (·.isFile w.artifactPath)
    return .failure (.ofError (artifactDiagnostic isFile w.artifactText) .environment warnings)
  | b :: bytes => package s w warnings (b :: bytes) (List.cons_ne_nil _ _)

/-- The build after its check has succeeded. -/
def build (s : Settings) (w : Workspace) (warnings : List Diagnostic) : Run BuildResult := do
  let out ← Run.command (buildCommand s w) s.buildTimeout
  let report ← interpret "cargo build" out
  let warnings := Diagnostic.merge warnings report.others
  match report.errors with
  | e :: errors => do
    Run.log .error ("Release build failed with " ++ countText (e :: errors))
    return .failure ⟨e :: errors, warnings, .diagnostics, List.cons_ne_nil _ _⟩
  | [] => finish s w warnings

/-- All stages in a workspace. -/
def stages (s : Settings) (w : Workspace) : Run BuildResult := do
  let out ← Run.command (checkCommand s w) s.checkTimeout
  let report ← interpret "cargo stylus check" out
  let warnings := Diagnostic.merge [] report.others
  match report.errors with
  | e :: errors => do
    Run.log .error ("Cargo stylus check failed with " ++ countText (e :: errors))
    return .failure ⟨e :: errors, warnings, .diagnostics, List.cons_ne_nil _ _⟩
  | [] => build s w warnings

/-! ## Compiling -/

/-- Whether a failure comes from the host, so that a build reports it as its environment. -/
def isEnvironmental : Failure → Bool
  | .setup _ _ => true
  | e => e.isSystemError

/-- Compiles a contract. -/
def compile (s : Settings) (source project : Text) : Run BuildResult := do
  if ← isAvailable s then
    let work := Workspace.within s.tempRoot project source Manifest.contract (stages s)
    match ← Run.attempt work with
    | .ok result => return result
    | .error (.overrun e) => return .failure (.ofError (timeoutDiagnostic e) .timeout)
    | .error e =>
      if isEnvironmental e then do
        Run.log .error ("Build environment error: " ++ e.message)
        return .failure (.ofError (.error e.message) .environment)
      else throw e
  else do
    Run.log .error "cargo-stylus is not installed"
    return .failure (.ofError missingDiagnostic .toolchainUnavailable)

/-! ## Checking the syntax -/

/-- The verdict on the output of the compiler. -/
def verdict (out : TimedOutput) : Run SyntaxCheck := do
  let report ← interpret "cargo check" out
  if report.errors.isEmpty then return ⟨true, []⟩
  else do
    Run.log .info ("Syntax check found " ++ countText report.errors)
    return ⟨false, report.errors⟩

/-- Checks the syntax of a source. -/
def checkSyntax (s : Settings) (source : Text) : Run SyntaxCheck := do
  if ← hasCompiler s then
    let work := Workspace.within s.tempRoot "validator" source Manifest.validator fun w =>
      Run.command (syntaxCommand s w) s.syntaxTimeout
    match ← Run.attempt work with
    | .ok out => verdict out
    | .error (.overrun e) => return ⟨false, [timeoutDiagnostic e]⟩
    | .error e => if isEnvironmental e then return ⟨false, [.error e.message]⟩ else throw e
  else return ⟨false, [compilerMissing]⟩

end ContractBuild.Toolchain
