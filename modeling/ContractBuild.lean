import ContractBuild.Build.Session
import ContractBuild.Diagnostic.Explanation
import ContractBuild.Main
import ContractBuild.Proofs.Files.Resolution
import ContractBuild.Proofs.Files.Operations
import ContractBuild.Proofs.Build.Workspace
import ContractBuild.Proofs.Host.Process
import ContractBuild.Proofs.Build.Lifetime
import ContractBuild.Proofs.Build.Decision
import ContractBuild.Proofs.Diagnostic.Parser
import ContractBuild.Proofs.Build.Totality
import ContractBuild.Proofs.Diagnostic.Line
import ContractBuild.Proofs.Diagnostic.RoundTrip
import ContractBuild.Proofs.Build.Naming
import ContractBuild.Proofs.Build.Session
import ContractBuild.Proofs.Host.Supervision
import ContractBuild.Proofs.Build.Supervision
import ContractBuild.Proofs.Build.Schedule
import ContractBuild.Proofs.Build.Stage
import ContractBuild.Proofs.Build.Report
import ContractBuild.Proofs.Build.Service
import ContractBuild.Proofs.Build.Ownership
import ContractBuild.Proofs.Build.Sandbox
import ContractBuild.Proofs.Build.Result
import ContractBuild.Proofs.Build.Wording
import ContractBuild.Proofs.Diagnostic.Merge
import ContractBuild.Proofs.Gas.Construct
import ContractBuild.Proofs.Gas.Quote
import ContractBuild.Proofs.Gas.Share
import ContractBuild.Proofs.Gas.Stream
import ContractBuild.Proofs.Gas.Suggestion
import ContractBuild.Proofs.Build.Fallback
import ContractBuild.Proofs.Build.Repetition
import ContractBuild.Proofs.Diagnostic.Locality
import ContractBuild.Proofs.Diagnostic.Quotation
import ContractBuild.Proofs.Build.Containment
import ContractBuild.Proofs.Build.Verdict
import ContractBuild.Proofs.Gas.Decision
import ContractBuild.Proofs.Logging.Logger
import ContractBuild.Proofs.Diagnostic.TestOrder
