import ContractBuild.Build.Result
import ContractBuild.Gas.Profile
import ContractBuild.Gas.Quote
import ContractBuild.Json.Basic

/-!
# Reports

The form in which results, profiles and quotes are handed to callers: JSON objects with a
fixed order of fields.
-/

set_option autoImplicit false

namespace ContractBuild

/-! ## Diagnostics -/

/-- The object of a location. -/
def Location.report (l : Location) : Json :=
  .object [("file", .text l.file), ("line", .int l.line), ("column", .int l.column)]

/-- The object of a diagnostic. -/
def Diagnostic.report (d : Diagnostic) : Json :=
  .object
    [("severity", .text d.severity.name), ("code", Json.ofText? d.code),
     ("message", .text d.message),
     ("location", match d.location with
       | some l => l.report
       | none => .null),
     ("snippet", Json.ofText? d.snippet), ("suggestion", Json.ofText? d.suggestion)]

/-- The list of several diagnostics. -/
def Diagnostic.reportAll (ds : List Diagnostic) : Json :=
  .list (ds.map Diagnostic.report)

/-! ## Gas -/

namespace Gas

/-- The object of one entry of a profile. -/
def OperationCost.report (op : OperationCost) : Json :=
  .object
    [("name", .text op.name), ("opcode", .text op.opcode), ("gasUsed", .int op.gas),
     ("percentageOfTotal", .real op.share), ("occurrenceCount", .int op.count),
     ("category", .text op.category)]

/-- The object of a profile. -/
def Profile.report (p : Profile) : Json :=
  .object
    [("totalGasUnits", .int p.total), ("operations", .list (p.operations.map (·.report))),
     ("estimatedCostEth", .real p.cost),
     ("optimizationSuggestions", .list (p.suggestions.map .text))]

/-- The object of a quote; all its numbers are texts. -/
def DeploymentQuote.report (q : DeploymentQuote) : Except FloatOverflow Json :=
  q.gweiText.map fun gwei =>
    .object
      [("gasEstimate", .text (Text.ofInt q.gas)), ("gasEstimateGwei", .text gwei),
       ("comparisonSolidity", .text (Text.ofInt q.equivalent)),
       ("savings", .text (Text.ofInt q.savings ++ ['%']))]

end Gas

/-! ## Results -/

/-- How the contract tool is installed. -/
def installHint : Text := "Install with: cargo install --force cargo-stylus"

/-- The object of a failure. Where the tool is missing, it says how to install it. -/
def BuildFailure.report (f : BuildFailure) : Json :=
  let hint : List (Text × Json) :=
    if f.kind = .toolchainUnavailable then [("installInstructions", .text installHint)] else []
  .object
    (("success", .bool false) :: ("reason", .text f.kind.name) ::
      ("errors", Diagnostic.reportAll f.errors) ::
      ("warnings", Diagnostic.reportAll f.warnings) :: hint)

/-- The fields of a success. -/
def BuildSuccess.fields (s : BuildSuccess) : List (Text × Json) :=
  [("success", .bool true), ("bytecode", .text s.bytecode), ("abi", Json.ofText? s.abi),
   ("wasmSize", .int s.size), ("warnings", Diagnostic.reportAll s.warnings),
   ("gasEstimate", Json.ofText? s.gas), ("placeholder", .bool s.placeholder)]

/-- The object of a success. With prices it has a gas profile, unless the artifact is only a
placeholder. -/
def BuildSuccess.report (s : BuildSuccess) : Option Gas.Pricing → Except FloatOverflow Json
  | some pricing =>
    if s.placeholder then .ok (.object s.fields)
    else (Gas.profileOfSize pricing s.size).map fun p =>
      let profile : Text × Json := ("gasProfile", p.report)
      .object (s.fields ++ [profile])
  | none => .ok (.object s.fields)

/-- The object of a result. -/
def BuildResult.report (r : BuildResult) (pricing : Option Gas.Pricing) :
    Except FloatOverflow Json :=
  match r with
  | .success s => s.report pricing
  | .failure f => .ok f.report

end ContractBuild
