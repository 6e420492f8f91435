import ContractBuild.Build.Sandbox
import ContractBuild.Build.Toolchain

/-!
# Serving requests

A request to compile is answered with a report. If the toolchain is missing, the remote
sandbox may stand in for it.
-/

set_option autoImplicit false

namespace ContractBuild

/-- A request to compile. -/
structure CompileRequest where
  source : Text
  project : Text := "contract"
  language : Text := "rust"
  useFallback : Bool := false
  deriving DecidableEq, Repr

namespace CompileRequest

/-- The languages that can be compiled. -/
def languages : List Text := ["rust"]

/-- The failure of a request in another language. -/
def unsupported (language : Text) : BuildFailure :=
  .ofError (.error ("Unsupported language '" ++ language ++ "'. Supported: " ++
    Text.join [',', ' '] languages)) .diagnostics

/-- Whether a result is to be replaced by that of the sandbox. -/
def wantsFallback (r : CompileRequest) : BuildResult → Bool
  | .success _ => false
  | .failure f => r.useFallback && f.kind = .toolchainUnavailable

/-- The result of a request. -/
def result (s : Settings) (r : CompileRequest) : Run BuildResult := do
  if languages.contains (Text.lower r.language) then do
    let native ← Toolchain.compile s r.source r.project
    if r.wantsFallback native then do
      Run.log .warning "Native toolchain unavailable, using remote fallback compiler"
      Sandbox.compile s r.source
    else return native
  else return .failure (unsupported r.language)

/-- The report on a result, with its gas at the prices of the settings. -/
def report (s : Settings) (result : BuildResult) : Run Json :=
  Run.answer .float (result.report (some s.pricing))

/-- The report on a request. -/
def answer (s : Settings) (r : CompileRequest) : Run Json := do
  report s (← r.result s)

end CompileRequest

end ContractBuild
