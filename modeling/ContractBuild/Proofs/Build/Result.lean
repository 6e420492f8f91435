import ContractBuild.Proofs.Build.Sandbox
import ContractBuild.Proofs.Build.Stage
import ContractBuild.Proofs.Build.Toolchain
import ContractBuild.Proofs.Build.Totality

/-!
# What results are made of

The results of a build are made at many places, of what the compiler says, of the known failures,
of lines that mention an error, and of diagnostics of the build itself. Whatever the place, a
success has an artifact and no error among its warnings, and a failure has errors only among its
errors and none among its warnings.

`Toolchain.Closed` is what a property of results has to meet at each of these places, and
`Toolchain.Closed.yields_compile` passes it to all results. Main statement: `results_sound`.
-/

set_option autoImplicit false

namespace ContractBuild

/-! ## Sound results -/

/-- Nothing of the list is an error. -/
def Diagnostic.NoErrors (ds : List Diagnostic) : Prop :=
  ∀ d ∈ ds, d.isError = false

/-- All of the list are errors. -/
def Diagnostic.AllErrors (ds : List Diagnostic) : Prop :=
  ∀ d ∈ ds, d.isError = true

/-- A result whose parts make a result, and are of the severity that their places ask for. -/
def BuildResult.IsSound : BuildResult → Prop
  | .success b => BuildSuccess.make b.artifact b.abi b.warnings b.gas b.placeholder = .ok b ∧
      b.artifact ≠ [] ∧ Diagnostic.NoErrors b.warnings
  | .failure f => BuildFailure.make f.errors f.warnings f.kind = .ok f ∧
      f.errors ≠ [] ∧ Diagnostic.AllErrors f.errors ∧ Diagnostic.NoErrors f.warnings

/-- A verdict with errors if and only if the source is not valid. -/
structure SyntaxCheck.IsSound (c : SyntaxCheck) : Prop where
  valid_iff : c.valid = true ↔ c.errors = []
  allErrors : Diagnostic.AllErrors c.errors

theorem BuildResult.isSound_success {b : BuildSuccess} (hw : Diagnostic.NoErrors b.warnings) :
    IsSound (.success b) :=
  ⟨dif_neg b.artifact_ne_nil, b.artifact_ne_nil, hw⟩

theorem BuildResult.isSound_failure {f : BuildFailure} (he : Diagnostic.AllErrors f.errors)
    (hw : Diagnostic.NoErrors f.warnings) : IsSound (.failure f) :=
  ⟨dif_neg f.errors_ne_nil, f.errors_ne_nil, he, hw⟩

namespace Diagnostic

theorem noErrors_nil : NoErrors [] :=
  List.forall_mem_nil _

theorem allErrors_singleton {d : Diagnostic} (hd : d.isError = true) : AllErrors [d] := by
  intro d' hd'
  rw [List.mem_singleton.1 hd']
  exact hd

theorem severity_of_mem_parseFlat {severity : Severity} {output : Text} {d : Diagnostic}
    (hd : d ∈ parseFlat severity output) : d.severity = severity := by
  obtain ⟨line, -, rfl⟩ := List.mem_map.1 hd
  rfl

theorem allErrors_parseFlat (output : Text) : AllErrors (parseFlat .error output) :=
  fun _ hd => decide_eq_true (severity_of_mem_parseFlat hd)

theorem noErrors_parseFlat (output : Text) : NoErrors (parseFlat .warning output) := by
  intro d hd
  rw [isError, severity_of_mem_parseFlat hd]
  rfl

/-- A merged list has nothing that is in neither list. -/
theorem mem_or_mem_of_mem_merge {into new : List Diagnostic} {d : Diagnostic}
    (hd : d ∈ merge into new) : d ∈ into ∨ d ∈ new := by
  induction new generalizing into with
  | nil => exact .inl hd
  | cons e new ih =>
    rcases ih hd with hmerged | hnew
    · rw [mergeOne] at hmerged
      split at hmerged
      · exact .inl hmerged
      · rcases List.mem_append.1 hmerged with hinto | he
        · exact .inl hinto
        · exact .inr (List.mem_cons.2 (.inl (List.mem_singleton.1 he)))
    · exact .inr (List.mem_cons_of_mem e hnew)

theorem NoErrors.merge {into new : List Diagnostic} (hinto : NoErrors into) (hnew : NoErrors new) :
    NoErrors (Diagnostic.merge into new) := by
  intro d hd
  rcases mem_or_mem_of_mem_merge hd with hd | hd
  · exact hinto d hd
  · exact hnew d hd

end Diagnostic

namespace StageReport

open Diagnostic

theorem allErrors_ofDiagnostics (stage : Text) (exitCode : Int) (records : List Diagnostic) :
    AllErrors (ofDiagnostics stage exitCode records).errors := by
  intro d hd
  rw [errors_ofDiagnostics] at hd
  split at hd
  · exact (List.mem_filter.1 (List.mem_filter.1 hd).1).2
  · split at hd
    · exact (List.mem_filter.1 hd).2
    · split at hd
      · exact allErrors_singleton rfl d hd
      · cases hd

theorem noErrors_ofDiagnostics (stage : Text) (exitCode : Int) (records : List Diagnostic) :
    NoErrors (ofDiagnostics stage exitCode records).others := by
  intro d hd
  have hkept := (List.mem_filter.1 hd).2
  rw [Bool.and_eq_true, Bool.not_eq_true'] at hkept
  exact hkept.1

variable {stage : Text} {out : CommandOutput} {report : StageReport}

/-- The report of a stage is one of diagnostics. -/
theorem exists_of_ofOutput (hr : ofOutput stage out = .ok report) :
    ∃ records, report = ofDiagnostics stage out.exitCode records := by
  rw [ofOutput] at hr
  cases hd : diagnostics out with
  | error e => rw [hd] at hr; cases hr
  | ok records => rw [hd] at hr; cases hr; exact ⟨records, rfl⟩

/-- The two parts of a report differ in their severities. -/
theorem severities_of_ofOutput (hr : ofOutput stage out = .ok report) :
    AllErrors report.errors ∧ NoErrors report.others := by
  obtain ⟨records, rfl⟩ := exists_of_ofOutput hr
  exact ⟨allErrors_ofDiagnostics stage _ records, noErrors_ofDiagnostics stage _ records⟩

end StageReport

/-! ## The places at which the native build makes results -/

namespace Toolchain

open Run Workspace

/-- What a property of results has to meet, with a property of the warnings that are handed on: one
field for each place at which a result is made. -/
structure Closed (W : List Diagnostic → Prop) (P : BuildResult → Prop) : Prop where
  start : W []
  handOn : ∀ {stage out report ws}, StageReport.ofOutput stage out = .ok report → W ws →
    W (Diagnostic.merge ws report.others)
  reported : ∀ {stage out report ws} (hne : report.errors ≠ []),
    StageReport.ofOutput stage out = .ok report → W ws →
      P (.failure ⟨report.errors, ws, .diagnostics, hne⟩)
  artifactMissing : ∀ {d ws}, d.isError = true → W ws → P (.failure (.ofError d .environment ws))
  packaged : ∀ {b : BuildSuccess} {ws}, W ws → b.placeholder = false →
    b.warnings = (if b.abi.isNone then ws ++ [abiWarning] else ws) → P (.success b)
  stopped : ∀ {d kind}, d.isError = true → kind = .timeout ∨ kind = .environment →
    P (.failure (.ofError d kind))

variable {W : List Diagnostic → Prop} {P : BuildResult → Prop} {s : Settings} {w : Workspace}
  {ws : List Diagnostic}

theorem yields_interpret (stage : Text) (out : TimedOutput) :
    Yields (fun report => StageReport.ofOutput stage out.toCommandOutput = .ok report)
      (interpret stage out) :=
  yields_answer fun _ hreport => hreport

theorem Closed.yields_finish (hp : Closed W P) (hw : W ws) : Yields P (finish s w ws) := by
  refine yields_last fun bytes => ?_
  cases bytes with
  | nil => exact yields_last fun _ => yields_last fun _ => yields_pure (hp.artifactMissing rfl hw)
  | cons b bytes =>
    exact yields_last fun _ => yields_last fun _ => yields_last fun _ =>
      yields_pure (hp.packaged hw rfl rfl)

/-- A stage that reports errors makes a result of them, and hands the build on otherwise. -/
theorem Closed.yields_stage (hp : Closed W P) {label : Text} {out : TimedOutput}
    {report : StageReport} (hreport : StageReport.ofOutput label out.toCommandOutput = .ok report)
    (hw : W ws) (message : List Diagnostic → Text) {next : Run BuildResult}
    (hnext : W (Diagnostic.merge ws report.others) → Yields P next) :
    Yields P (match report.errors with
      | e :: errors => do
        Run.log .error (message (e :: errors))
        return .failure ⟨e :: errors, Diagnostic.merge ws report.others, .diagnostics,
          List.cons_ne_nil _ _⟩
      | [] => next) := by
  have hws := hp.handOn hreport hw
  cases herrors : report.errors with
  | nil => exact hnext hws
  | cons e errors =>
    have hne : report.errors ≠ [] := herrors ▸ List.cons_ne_nil e errors
    have hreported := hp.reported hne hreport hws
    simp only [herrors] at hreported
    exact yields_last fun _ => yields_pure hreported

theorem Closed.yields_build (hp : Closed W P) (hw : W ws) : Yields P (build s w ws) := by
  refine yields_last fun out => (yields_interpret _ out).bind fun report hreport => ?_
  exact hp.yields_stage hreport hw (fun errors => "Release build failed with " ++ countText errors)
    hp.yields_finish

theorem Closed.yields_stages (hp : Closed W P) : Yields P (stages s w) := by
  refine yields_last fun out => (yields_interpret _ out).bind fun report hreport => ?_
  exact hp.yields_stage hreport hp.start
    (fun errors => "Cargo stylus check failed with " ++ countText errors) hp.yields_build

/-- Work in a workspace yields what the work itself yields. -/
theorem yields_within {α : Type} {R : α → Prop} {parent : Path} {project source template : Text}
    {work : Workspace → Run α} (hwork : ∀ w, Yields R (work w)) :
    Yields R (within parent project source template work) := by
  refine yields_last fun w => (yields_attempt (hwork w)).bind fun result hresult => ?_
  exact yields_last fun _ => yields_answer hresult

/-- A build that stops has a result in its own right. -/
theorem Closed.yields_compileEnd (hp : Closed W P) {r : Except Failure BuildResult}
    (hr : ∀ result, r = .ok result → P result) : Yields P (compileEnd r) := by
  unfold compileEnd
  split
  · exact yields_pure (hr _ rfl)
  · exact yields_pure (hp.stopped rfl (.inl rfl))
  · split
    · exact yields_last fun _ => yields_pure (hp.stopped rfl (.inr rfl))
    · exact yields_throw _

theorem Closed.yields_compile (hp : Closed W P)
    (hmissing : P (.failure (.ofError missingDiagnostic .toolchainUnavailable))) (s : Settings)
    (source project : Text) : Yields P (compile s source project) := by
  rw [compile_eq, guarded]
  refine yields_last fun usable => ?_
  cases usable with
  | false => exact yields_last fun _ => yields_pure hmissing
  | true =>
    refine (yields_attempt (yields_within fun w => hp.yields_stages)).bind fun r hr => ?_
    exact hp.yields_compileEnd hr

/-! ## Soundness of the native results -/

open Diagnostic

/-- Each place at which a result is made makes a sound one, if no error is handed on. -/
theorem closed_isSound : Closed NoErrors BuildResult.IsSound where
  start := noErrors_nil
  handOn hreport hws := hws.merge (StageReport.severities_of_ofOutput hreport).2
  reported _ hreport hws :=
    BuildResult.isSound_failure (StageReport.severities_of_ofOutput hreport).1 hws
  artifactMissing hd hws := BuildResult.isSound_failure (allErrors_singleton hd) hws
  packaged := by
    intro b ws hws _ hwarnings
    refine BuildResult.isSound_success ?_
    rw [hwarnings]
    split
    · intro d hd
      rcases List.mem_append.1 hd with hd | hd
      · exact hws d hd
      · rw [List.mem_singleton.1 hd]
        rfl
    · exact hws
  stopped hd _ := BuildResult.isSound_failure (allErrors_singleton hd) noErrors_nil

theorem yields_verdict (out : TimedOutput) : Yields SyntaxCheck.IsSound (verdict out) := by
  refine (yields_interpret _ out).bind fun report hreport => ?_
  have herrors := (StageReport.severities_of_ofOutput hreport).1
  split
  · exact yields_pure ⟨iff_of_true rfl rfl, List.forall_mem_nil _⟩
  · rename_i hne
    refine yields_last fun _ => yields_pure ⟨iff_of_false Bool.false_ne_true ?_, herrors⟩
    exact fun hnil => hne (List.isEmpty_iff.2 hnil)

/-- A check that stops for one error is a sound verdict. -/
theorem isSound_invalid {d : Diagnostic} (hd : d.isError = true) :
    SyntaxCheck.IsSound ⟨false, [d]⟩ :=
  ⟨iff_of_false Bool.false_ne_true (List.cons_ne_nil _ _), allErrors_singleton hd⟩

theorem yields_checkSyntax (s : Settings) (source : Text) :
    Yields SyntaxCheck.IsSound (checkSyntax s source) := by
  rw [checkSyntax_eq, guarded]
  refine yields_last fun usable => ?_
  cases usable with
  | false => exact yields_pure (isSound_invalid rfl)
  | true =>
    refine yields_last fun r => ?_
    unfold checkEnd
    split
    · exact yields_verdict _
    · exact yields_pure (isSound_invalid rfl)
    · split
      · exact yields_pure (isSound_invalid rfl)
      · exact yields_throw _

end Toolchain

/-! ## Soundness of the remote results -/

namespace Sandbox

open Diagnostic

theorem isSound_compileFailure {errors : List Diagnostic} (he : AllErrors errors) (stderr : Text) :
    BuildResult.IsSound (.failure (compileFailure errors stderr)) := by
  cases errors with
  | nil =>
    exact BuildResult.isSound_failure (allErrors_singleton rfl) (noErrors_parseFlat stderr)
  | cons e errors => exact BuildResult.isSound_failure he (noErrors_parseFlat stderr)

theorem isSound_of_comesTo {result : BuildResult} (hc : ComesTo result) : result.IsSound := by
  cases hc with
  | stopped hd => exact BuildResult.isSound_failure (allErrors_singleton hd) noErrors_nil
  | failed stderr => exact isSound_compileFailure (allErrors_parseFlat stderr) stderr
  | succeeded text stderr => exact BuildResult.isSound_success (noErrors_parseFlat stderr)

end Sandbox

/-! ## Values that cannot be used -/

/-- If the failure is a value that cannot be used, then it is a number with too many digits in the
output of a tool, or a text that cannot be a path. -/
def Failure.IsExpected (e : Failure) : Prop :=
  e.isValueError = true → (∃ d, e = .digits d) ∨ e = .file .embeddedNull

namespace Failure

theorem isExpected_file (e : FileError) : IsExpected (.file e) := by
  intro he
  cases e with
  | refused fault path => cases he
  | embeddedNull => exact .inr rfl

theorem isExpected_digits (e : Text.TooManyDigits) : IsExpected (.digits e) :=
  fun _ => .inl ⟨e, rfl⟩

theorem isExpected_of_not {e : Failure} (he : e.isValueError = false) : IsExpected e := by
  intro hvalue
  rw [he] at hvalue
  cases hvalue

end Failure

namespace Run

open Failure

theorem fails_command (c : Command) (budget : Binary64) : Fails IsExpected (command c budget) := by
  intro h e h' hr
  have hends := (command_spec c budget h).1
  rw [hr] at hends
  cases hends <;> exact isExpected_of_not rfl

theorem fails_tryCommand (c : Command) (budget : Binary64) :
    Fails IsExpected (tryCommand c budget) := by
  refine (fails_attempt _).bind (fails_command c budget).yields_attempt fun r hr => ?_
  cases r with
  | ok out => exact fails_pure _
  | error e =>
    simp only
    split
    · exact fails_pure _
    · exact fails_throw (hr e rfl)

end Run

namespace Workspace

open Run Failure

variable {parent : Path} {project source template : Text}

theorem fails_release (w : Workspace) : Fails IsExpected w.release := by
  refine (fails_of_returns fun _ => ⟨(), rfl⟩).andThen fun _ =>
    (fails_of_returns fun _ => ⟨(), rfl⟩).andThen fun _ => ?_
  refine (fails_ask isExpected_file).andThen fun there => ?_
  cases there <;> exact fails_log _ _

/-- A workspace is filled, or a file operation fails: its manifest has an expansion. -/
theorem fails_fill (w : Workspace)
    (htemplate : template = Manifest.contract ∨ template = Manifest.validator) :
    Fails IsExpected (w.fill source template) := by
  obtain ⟨manifest, hmanifest⟩ := Manifest.expands htemplate w.crate
  refine (fails_onFiles isExpected_file).andThen fun _ => ?_
  rw [hmanifest]
  exact (fails_pure manifest).andThen fun manifest =>
    (fails_onFiles isExpected_file).andThen fun _ => fails_onFiles isExpected_file

theorem isExpected_setupFailure (w : Workspace) {e : Failure} (he : e.IsExpected) :
    (w.setupFailure e).IsExpected := by
  unfold setupFailure
  split
  · exact isExpected_of_not rfl
  · exact he

theorem fails_prepare (w : Workspace)
    (htemplate : template = Manifest.contract ∨ template = Manifest.validator) :
    Fails IsExpected (w.prepare source template) := by
  refine Fails.andThen ?_ fun _ => fails_log _ _
  exact (fails_fill w htemplate).tryCatch fun e he =>
    fails_throw (isExpected_setupFailure w he)

theorem fails_acquire (htemplate : template = Manifest.contract ∨ template = Manifest.validator) :
    Fails IsExpected (acquire parent project source template) := by
  refine (fails_of_returns fun _ => ⟨_, rfl⟩).andThen fun w => ?_
  refine (fails_attempt _).bind (fails_prepare w htemplate).yields_attempt fun r hr => ?_
  cases r with
  | ok _ => exact fails_pure w
  | error e => exact (fails_release w).andThen fun _ => fails_throw (hr e rfl)

theorem fails_within {α : Type} {work : Workspace → Run α}
    (htemplate : template = Manifest.contract ∨ template = Manifest.validator)
    (hwork : ∀ w, Fails IsExpected (work w)) :
    Fails IsExpected (within parent project source template work) := by
  refine (fails_acquire htemplate).andThen fun w => ?_
  refine (fails_attempt _).bind (hwork w).yields_attempt fun r hr => ?_
  exact (fails_release w).andThen fun _ => fails_answer hr

end Workspace

namespace Toolchain

open Run Failure

variable {s : Settings} {w : Workspace}

theorem fails_version (s : Settings) : Fails IsExpected (version s) := by
  refine (fails_tryCommand _ _).andThen fun r => ?_
  cases r with
  | ok out => exact fails_pure _
  | error e => exact (fails_log _ _).andThen fun _ => fails_pure _

theorem fails_hasCompiler (s : Settings) : Fails IsExpected (hasCompiler s) := by
  refine (fails_tryCommand _ _).andThen fun r => ?_
  cases r <;> exact fails_pure _

theorem fails_interpret (stage : Text) (out : TimedOutput) :
    Fails IsExpected (interpret stage out) :=
  fails_answer fun e _ => isExpected_digits e

theorem fails_artifact (w : Workspace) : Fails IsExpected (artifact w) := by
  refine (fails_ask isExpected_file).andThen fun isFile => ?_
  split
  · exact fails_ask isExpected_file
  · exact fails_pure _

theorem fails_abi (s : Settings) (w : Workspace) : Fails IsExpected (abi s w) := by
  refine (fails_tryCommand _ _).andThen fun r => ?_
  cases r with
  | error e => exact (fails_log _ _).andThen fun _ => fails_pure _
  | ok out =>
    simp only
    split
    · exact (fails_log _ _).andThen fun _ => fails_pure _
    · exact fails_pure _

theorem fails_gas (s : Settings) (w : Workspace) : Fails IsExpected (gas s w) := by
  refine (fails_tryCommand _ _).andThen fun r => ?_
  cases r with
  | error e => exact (fails_log _ _).andThen fun _ => fails_pure _
  | ok out => exact fails_pure _

theorem fails_finish (ws : List Diagnostic) : Fails IsExpected (finish s w ws) := by
  refine (fails_artifact w).andThen fun bytes => ?_
  cases bytes with
  | nil =>
    exact (fails_log _ _).andThen fun _ =>
      (fails_ask isExpected_file).andThen fun _ => fails_pure _
  | cons b bytes =>
    exact (fails_abi s w).andThen fun _ => (fails_gas s w).andThen fun _ =>
      (fails_log _ _).andThen fun _ => fails_pure _

theorem fails_build (ws : List Diagnostic) : Fails IsExpected (build s w ws) := by
  refine (fails_command _ _).andThen fun out => (fails_interpret _ out).andThen fun report => ?_
  simp only
  split
  · exact (fails_log _ _).andThen fun _ => fails_pure _
  · exact fails_finish _

theorem fails_stages : Fails IsExpected (stages s w) := by
  refine (fails_command _ _).andThen fun out => (fails_interpret _ out).andThen fun report => ?_
  simp only
  split
  · exact (fails_log _ _).andThen fun _ => fails_pure _
  · exact fails_build _

theorem fails_compile (s : Settings) (source project : Text) :
    Fails IsExpected (compile s source project) := by
  rw [compile_eq, guarded]
  refine ((fails_version s).andThen fun _ => fails_pure _).andThen fun usable => ?_
  cases usable with
  | false => exact (fails_log _ _).andThen fun _ => fails_pure _
  | true =>
    have hwithin : Fails IsExpected
        (Workspace.within s.tempRoot project source Manifest.contract (stages s)) :=
      Workspace.fails_within (.inl rfl) fun w => fails_stages
    refine (fails_attempt _).bind hwithin.yields_attempt fun r hr => ?_
    unfold compileEnd
    split
    · exact fails_pure _
    · exact fails_pure _
    · split
      · exact (fails_log _ _).andThen fun _ => fails_pure _
      · exact fails_throw (hr _ rfl)

theorem fails_checkSyntax (s : Settings) (source : Text) :
    Fails IsExpected (checkSyntax s source) := by
  rw [checkSyntax_eq, guarded]
  refine (fails_hasCompiler s).andThen fun usable => ?_
  cases usable with
  | false => exact fails_pure _
  | true =>
    have hwithin : Fails IsExpected
        (Workspace.within s.tempRoot "validator" source Manifest.validator fun w =>
          Run.command (syntaxCommand s w) s.syntaxTimeout) :=
      Workspace.fails_within (.inr rfl) fun w => fails_command _ _
    refine (fails_attempt _).bind hwithin.yields_attempt fun r hr => ?_
    unfold checkEnd
    split
    · refine (fails_interpret _ _).andThen fun report => ?_
      split
      · exact fails_pure _
      · exact (fails_log _ _).andThen fun _ => fails_pure _
    · exact fails_pure _
    · split
      · exact fails_pure _
      · exact fails_throw (hr _ rfl)

end Toolchain

/-! ## All results -/

open Run

namespace Sandbox

theorem yields_isSound (s : Settings) (source : Text) :
    Yields BuildResult.IsSound (compile s source) :=
  (yields_comesTo s source).mono fun _ => isSound_of_comesTo

theorem isSound_verdictOf {result : BuildResult} (hr : result.IsSound) :
    (verdictOf result).IsSound := by
  cases result with
  | success b => exact ⟨iff_of_true rfl rfl, List.forall_mem_nil _⟩
  | failure f =>
    obtain ⟨-, hne, herrors, -⟩ := hr
    exact ⟨iff_of_false Bool.false_ne_true hne, herrors⟩

/-- A remote check ends as the verdict of a remote compilation. -/
theorem of_checkSyntax {s : Settings} {source : Text} {h h' : Host} {r : Except Failure SyntaxCheck}
    (hr : (checkSyntax s source).on h = (r, h')) :
    ((compile s source).on h).1.map verdictOf = r := by
  rw [← on_checkSyntax, hr]

theorem yields_checkSyntax (s : Settings) (source : Text) :
    Yields SyntaxCheck.IsSound (checkSyntax s source) := by
  intro h check h' hr
  have hcheck := of_checkSyntax hr
  cases hcompile : (compile s source).on h with
  | mk answer h₁ =>
    rw [hcompile] at hcheck
    cases answer with
    | error e => cases hcheck
    | ok result =>
      cases hcheck
      exact isSound_verdictOf (yields_isSound s source h result h₁ hcompile)

theorem fails_compile (s : Settings) (source : Text) :
    Fails (·.isValueError = false) (compile s source) := by
  intro h e h' hr
  have hc := concluded_compile s source h
  rw [hr] at hc
  rcases fault_of_concluded hc with ⟨reason, -, rfl⟩ | ⟨fault, rfl⟩ <;> rfl

theorem fails_checkSyntax (s : Settings) (source : Text) :
    Fails (·.isValueError = false) (checkSyntax s source) := by
  intro h e h' hr
  have hcheck := of_checkSyntax hr
  cases hcompile : (compile s source).on h with
  | mk answer h₁ =>
    rw [hcompile] at hcheck
    cases answer with
    | ok result => cases hcheck
    | error e' =>
      cases hcheck
      exact fails_compile s source h _ h₁ hcompile

end Sandbox

/-- Whatever a build or a check returns is sound, native or remote. No text of a source is a value
that cannot be used: a native build or check stops for such a value only if it is a number with too
many digits or a path that is none, and a remote one never does. Where both streams of an answer can
be used as texts, a remote one returns. -/
theorem results_sound (s : Settings) (source project : Text) :
    (Yields BuildResult.IsSound (Toolchain.compile s source project) ∧
      Yields SyntaxCheck.IsSound (Toolchain.checkSyntax s source) ∧
      Yields BuildResult.IsSound (Sandbox.compile s source) ∧
      Yields SyntaxCheck.IsSound (Sandbox.checkSyntax s source)) ∧
    (Fails Failure.IsExpected (Toolchain.compile s source project) ∧
      Fails Failure.IsExpected (Toolchain.checkSyntax s source) ∧
      Fails (·.isValueError = false) (Sandbox.compile s source) ∧
      Fails (·.isValueError = false) (Sandbox.checkSyntax s source)) ∧
    ∀ (h : Host) reason fields,
      h.nextReply = .answered 200 reason (.ok (.object fields)) →
      Sandbox.Textual fields "stdout" → Sandbox.Textual fields "stderr" →
      (∃ result, ((Sandbox.compile s source).on h).1 = .ok result) ∧
        ∃ check, ((Sandbox.checkSyntax s source).on h).1 = .ok check := by
  refine ⟨⟨?_, Toolchain.yields_checkSyntax s source, Sandbox.yields_isSound s source,
      Sandbox.yields_checkSyntax s source⟩,
    ⟨Toolchain.fails_compile s source project, Toolchain.fails_checkSyntax s source,
      Sandbox.fails_compile s source, Sandbox.fails_checkSyntax s source⟩,
    fun h reason fields hreply hout herr => ?_⟩
  · have hmissing : BuildResult.IsSound
        (.failure (.ofError Toolchain.missingDiagnostic .toolchainUnavailable)) :=
      BuildResult.isSound_failure (Diagnostic.allErrors_singleton rfl) Diagnostic.noErrors_nil
    exact Toolchain.closed_isSound.yields_compile hmissing s source project
  · have hunderstood : Sandbox.Understood h.nextReply := hreply ▸ .body herr (.inr hout)
    rw [Sandbox.checkSyntax_returns_iff, and_self]
    exact (Sandbox.returns_iff_of_concluded (Sandbox.concluded_compile s source h)).2 hunderstood

/-- A service that answers without a word, beside a tool whose check fails without one. -/
def wordlessHost : Host where
  spawns := [.started { ending := .exited 0 (Text.encode "cargo stylus 0.5.3") [] },
    .started { ending := .exited 1 [] [] }]
  replies := [.answered 200 none (.ok (.object [("stdout", .null)]))]

/-- Without a source and without a word there are still sound results. -/
theorem results_sound_wordless :
    (∃ b, ((Sandbox.compile {} []).on wordlessHost).1 = .ok (.success b) ∧
      b.artifact = Text.encode Sandbox.bareMark ∧ BuildResult.IsSound (.success b)) ∧
    ∃ f, ((Toolchain.compile {} [] "contract").on wordlessHost).1 = .ok (.failure f) ∧
      f.errors = [StageReport.silentFailure "cargo stylus check" 1] ∧
      BuildResult.IsSound (.failure f) := by
  obtain ⟨⟨hnative, -, hremote, -⟩, -⟩ := results_sound {} [] "contract"
  have hcompile : ((Toolchain.compile {} [] "contract").on wordlessHost).1.toOption =
      some (.failure (.ofError (StageReport.silentFailure "cargo stylus check" 1)
        .diagnostics)) := by
    decide +kernel
  refine ⟨⟨_, rfl, rfl, hremote wordlessHost _ _ rfl⟩, ?_⟩
  cases hr : (Toolchain.compile {} [] "contract").on wordlessHost with
  | mk answer h' =>
    rw [hr] at hcompile
    cases answer with
    | error e => cases hcompile
    | ok result =>
      cases hcompile
      exact ⟨_, rfl, rfl, hnative wordlessHost _ h' hr⟩

end ContractBuild
