import ContractBuild.Proofs.Build.Toolchain
import ContractBuild.Proofs.Number.Rounding

/-!
# The decision of a compilation

The result of a compilation as a function of the files and of the outcomes of its processes, taken
step by step and ending at the first step that fails (`Toolchain.decision`): the probe, the
workspace, the check, the build, the artifact. The interface and the gas belong to a success and
never decide about it.

Main statement: a compilation that returns, returns the decision
(`Toolchain.eq_decision_of_compile`). Where the operating system refuses to look for the artifact,
the decision is a failure of the environment without warnings, not a missing artifact: the
warnings of the stages are lost (`Toolchain.warnings_lost_linkedTarget`).
-/

set_option autoImplicit false

namespace ContractBuild.Toolchain

open Files Run Workspace

/-! ## Outcomes and answers -/

/-- What comes of the process with this number, counted from zero. -/
def outcomeAt (s : Settings) (h : Host) (n : Nat) : Spawn :=
  (h.spawns.drop n).headD (.refused (programMissing s.cargo))

/-- The files once a process has run in a directory. -/
def written (base : Path) (o : Spawn) (f : Files) : Files :=
  match o with
  | .started child => FileRun.plantAll base child.writes f
  | _ => f

/-- What a command comes to with this outcome. -/
def answerOf (c : Command) (budget : Binary64) : Spawn → Except Failure CommandOutput
  | .refused e => .error (.os e)
  | .interrupted => .error .interrupted
  | .started child =>
    match child.ending with
    | .overrun => .error (.overrun ⟨c.stage, budget⟩)
    | .cancelled => .error .cancelled
    | .exited code stdout stderr =>
      .ok ⟨code, Text.decodeLossy stdout, Text.decodeLossy stderr⟩

/-- The output of a process that ended by itself. -/
def Says (o : Spawn) (out : CommandOutput) : Prop :=
  ∃ child code stdout stderr, o = .started child ∧ child.ending = .exited code stdout stderr ∧
    out = ⟨code, Text.decodeLossy stdout, Text.decodeLossy stderr⟩

/-- A command has an output only if its process ended by itself. -/
theorem says_of_answerOf {c : Command} {budget : Binary64} {o : Spawn} {out : CommandOutput}
    (ha : answerOf c budget o = .ok out) : Says o out := by
  unfold answerOf at ha
  split at ha
  · cases ha
  · cases ha
  · rename_i child
    split at ha
    · cases ha
    · cases ha
    · rename_i code stdout stderr hending
      cases ha
      exact ⟨child, code, stdout, stderr, rfl, hending, rfl⟩

/-- What a stage reports with this outcome. -/
def reportOf (label : Text) (c : Command) (budget : Binary64) (o : Spawn) :
    Except Failure StageReport :=
  match answerOf c budget o with
  | .error e => .error e
  | .ok out => (StageReport.ofOutput label out).mapError .digits

/-- What a step that need not succeed comes to with this outcome: nothing, if it could not be
started or ran out of time. -/
def optionOf (read : CommandOutput → Option Text) (c : Command) (budget : Binary64) (o : Spawn) :
    Except Failure (Option Text) :=
  match answerOf c budget o with
  | .error e => if e.isSystemError then .ok none else .error e
  | .ok out => .ok (read out)

/-- The stripped output of a command that succeeded, unless it is blank. -/
def spokenText (out : CommandOutput) : Option Text :=
  let text := Text.strip out.stdout
  if out.exitCode != 0 || text.isEmpty then none else some text

/-- The gas that a command which succeeded speaks of. -/
def spokenGas (out : CommandOutput) : Option Text :=
  if out.exitCode = 0 then gasMention? out.stdout else none

/-! ## The decision -/

/-- The result that a failure comes to; none if it is no matter of the build. -/
def failed : Failure → Option BuildResult
  | .overrun e => some (.failure (.ofError (timeoutDiagnostic e) .timeout))
  | e => if isEnvironmental e then some (.failure (.ofError (.error e.message) .environment))
    else none

/-- The failure of a workspace that cannot be made. If its removal cannot be checked, that is the
failure that is told. -/
def setupFailure (w : Workspace) (e : Failure) (f : Files) : Failure :=
  match (f.withoutTree w.root).isThere w.root with
  | .error e' => .file e'
  | .ok _ => w.setupFailure e

section Steps

variable (s : Settings) (h : Host) (w : Workspace)

/-- With an artifact the build has succeeded, with or without an interface and an amount of gas. -/
def decideSuccess (warnings : List Diagnostic) (bytes : Bytes) (hb : bytes ≠ []) :
    Option BuildResult :=
  match optionOf spokenText (abiCommand s w) s.abiTimeout (outcomeAt s h 3),
    optionOf spokenGas (gasCommand s w) s.gasTimeout (outcomeAt s h 4) with
  | .ok abi, .ok gas => some <| .success
    { artifact := bytes, abi, gas, artifact_ne_nil := hb
      warnings := if abi.isNone then warnings ++ [abiWarning] else warnings }
  | .error e, _ => failed e
  | _, .error e => failed e

/-- After the build the artifact has to be there, and must not be empty. -/
def decideArtifact (warnings : List Diagnostic) (f : Files) : Option BuildResult :=
  match f.find? w.artifactPath with
  | .error e => failed (.file e)
  | .ok (some (.file (b :: bytes))) =>
    decideSuccess s h w warnings (b :: bytes) (List.cons_ne_nil _ _)
  | .ok (some (.file [])) => some <| .failure <|
    .ofError (artifactDiagnostic true w.artifactText) .environment warnings
  | .ok _ => some <| .failure <|
    .ofError (artifactDiagnostic false w.artifactText) .environment warnings

/-- After the check the build must not report errors. -/
def decideBuild (warnings : List Diagnostic) (f : Files) : Option BuildResult :=
  match reportOf "cargo build" (buildCommand s w) s.buildTimeout (outcomeAt s h 2) with
  | .error e => failed e
  | .ok ⟨e :: errors, others⟩ => some <| .failure
    ⟨e :: errors, Diagnostic.merge warnings others, .diagnostics, List.cons_ne_nil _ _⟩
  | .ok ⟨[], others⟩ =>
    decideArtifact s h w (Diagnostic.merge warnings others) (written w.root (outcomeAt s h 2) f)

/-- In the workspace the check must not report errors. -/
def decideCheck (f : Files) : Option BuildResult :=
  match reportOf "cargo stylus check" (checkCommand s w) s.checkTimeout (outcomeAt s h 1) with
  | .error e => failed e
  | .ok ⟨e :: errors, others⟩ => some <| .failure
    ⟨e :: errors, Diagnostic.merge [] others, .diagnostics, List.cons_ne_nil _ _⟩
  | .ok ⟨[], others⟩ =>
    decideBuild s h w (Diagnostic.merge [] others) (written w.root (outcomeAt s h 1) f)

/-- The workspace has to be made, in the files as they are once the probe has run. -/
def decideWorkspace (source : Text) (f : Files) : Option BuildResult :=
  match w.filling source Manifest.contract f with
  | (.error e, g) => failed (setupFailure w e g)
  | (.ok (), g) => decideCheck s h w g

end Steps

/-- The result of a compilation, if there is one. The probe has to exit with zero in time and to
say something. -/
def decision (s : Settings) (source project : Text) (h : Host) : Option BuildResult :=
  match optionOf spokenText (versionCommand s) s.probeTimeout (outcomeAt s h 0) with
  | .error e => failed e
  | .ok none => some (.failure (.ofError missingDiagnostic .toolchainUnavailable))
  | .ok (some _) =>
    decideWorkspace s h (named s.tempRoot project h) source
      (written Path.here (outcomeAt s h 0) h.files)

/-! ## The run of a command -/

/-- The host `h'` is `h` once so many outcomes are used, with these files. -/
structure Used (h : Host) (n : Nat) (f : Files) (h' : Host) : Prop where
  spawns : h'.spawns = h.spawns.drop n
  files : h'.files = f
  times : h'.times.values ⊆ h.times.values

theorem Used.noted {h h' h'' : Host} {n : Nat} {f : Files} (hu : Used h n f h')
    (hn : h'.Noted h'') : Used h n f h'' :=
  ⟨hn.spawns.trans hu.spawns, hn.files.trans hu.files, List.Subset.trans hn.times hu.times⟩

/-- Work in a workspace finds the files that filling it has left. -/
theorem Used.filled {h h' h'' : Host} {n : Nat} {f g : Files} (hu : Used h n f h')
    (hn : (drawn h' g).Noted h'') : Used h n g h'' :=
  ⟨hn.spawns.trans hu.spawns, hn.files, List.Subset.trans hn.times hu.times⟩

/-- The work failed because the time between two readings is too long for a number. -/
def Unmeasured {α : Type} (h : Host) (r : Except Failure α) : Prop :=
  ∃ start ∈ h.times.values, ∃ finish ∈ h.times.values, ∃ e,
    start.secondsTo finish = .error e ∧ r = .error (.float e)

theorem Unmeasured.error {α β : Type} {h : Host} {r : Except Failure α} (hu : Unmeasured h r) :
    ∃ e, r = .error (.float e) ∧ Unmeasured h (.error (.float e) : Except Failure β) := by
  obtain ⟨start, hs, finish, hf, e, hd, hr⟩ := hu
  exact ⟨e, hr, start, hs, finish, hf, e, hd, rfl⟩

/-- A command uses the next outcome, and its answer is the one that belongs to the outcome. -/
theorem command_used {s : Settings} {h h' : Host} {n : Nat} {f : Files} (hu : Used h n f h')
    {c : Command} (hc : c.program = s.cargo) (budget : Binary64) :
    ∃ r h'', (Run.command c budget).on h' = (r, h'') ∧
      Used h (n + 1) (written (c.directory.getD Path.here) (outcomeAt s h n) f) h'' ∧
      (r.map TimedOutput.toCommandOutput = answerOf c budget (outcomeAt s h n) ∨
        Unmeasured h r) := by
  obtain ⟨hends, hran⟩ := command_spec c budget h'
  have houtcome : h'.outcome c = outcomeAt s h n := by
    rw [Host.outcome, outcomeAt, hu.spawns, hc]
  cases hr : (Run.command c budget).on h' with
  | mk r h'' =>
    rw [hr] at hends hran
    refine ⟨r, h'', rfl, ⟨?_, ?_, List.Subset.trans hran.times hu.times⟩, ?_⟩
    · rw [hran.spawns, hu.spawns, List.tail_drop]
    · rw [hran.files, Host.filesAfter, houtcome, hu.files]
      rfl
    rw [← houtcome]
    cases hends with
    | refused ho => exact .inl (by rw [ho]; rfl)
    | interrupted ho => exact .inl (by rw [ho]; rfl)
    | overrun ho he => exact .inl (by simp only [ho, answerOf, he]; rfl)
    | cancelled ho he => exact .inl (by simp only [ho, answerOf, he]; rfl)
    | unmeasured ho he hs hf hd =>
      exact .inr ⟨_, hu.times hs, _, hu.times hf, _, hd, rfl⟩
    | exited ho he => exact .inl (by simp only [ho, answerOf, he]; rfl)

/-- A step that need not succeed: what it comes to is read off the output, or it is nothing. -/
theorem option_used {s : Settings} {h h' : Host} {n : Nat} {f : Files} (hu : Used h n f h')
    {c : Command} (hc : c.program = s.cargo) {budget : Binary64}
    {read : CommandOutput → Option Text} {next : Except Failure TimedOutput → Run (Option Text)}
    (herror : ∀ e h₁, ∃ h₂, (next (.error e)).on h₁ = (.ok none, h₂) ∧ h₁.Noted h₂)
    (hok : ∀ out h₁, ∃ h₂, (next (.ok out)).on h₁ = (.ok (read out.toCommandOutput), h₂) ∧
      h₁.Noted h₂) :
    ∃ r h'', (tryCommand c budget >>= next).on h' = (r, h'') ∧
      Used h (n + 1) (written (c.directory.getD Path.here) (outcomeAt s h n) f) h'' ∧
      (r = optionOf read c budget (outcomeAt s h n) ∨ Unmeasured h r) := by
  obtain ⟨r, h₁, hr, hu₁, hanswer⟩ := command_used hu hc budget
  unfold optionOf
  cases r with
  | ok out =>
    obtain ⟨h₂, hnext, hn⟩ := hok out h₁
    refine ⟨_, h₂, by rw [on_bind_ok (on_tryCommand_of_ok hr), hnext], hu₁.noted hn, .inl ?_⟩
    rcases hanswer with hanswer | ⟨_, _, _, _, _, _, hu⟩
    · rw [← hanswer]
      rfl
    · cases hu
  | error e =>
    -- a failure of the system is dropped, and the step comes to nothing; any other is passed on
    cases he : e.isSystemError with
    | true =>
      obtain ⟨h₂, hnext, hn⟩ := herror e h₁
      refine ⟨_, h₂, by rw [on_bind_ok (on_tryCommand_of_systemError hr he), hnext],
        hu₁.noted hn, .inl ?_⟩
      rcases hanswer with hanswer | ⟨_, _, _, _, _, _, hu⟩
      · rw [← hanswer]
        exact (if_pos he).symm
      · cases hu
        cases he
    | false =>
      refine ⟨_, h₁, by rw [on_bind_error (on_tryCommand_of_error hr he)], hu₁, ?_⟩
      rcases hanswer with hanswer | hunmeasured
      · rw [← hanswer]
        exact .inl (if_neg (by rw [he]; simp)).symm
      · obtain ⟨e', he', hu'⟩ := hunmeasured.error
        cases he'
        exact .inr hu'

theorem version_used {s : Settings} {h h' : Host} {n : Nat} {f : Files} (hu : Used h n f h') :
    ∃ r h'', (version s).on h' = (r, h'') ∧
      Used h (n + 1) (written Path.here (outcomeAt s h n) f) h'' ∧
      (r = optionOf spokenText (versionCommand s) s.probeTimeout (outcomeAt s h n) ∨
        Unmeasured h r) := by
  exact option_used hu rfl (fun _ h₁ => on_log_pure _ _ _ h₁) fun _ h₁ => ⟨h₁, rfl, .refl h₁⟩

section Steps

variable {s : Settings} {h h' : Host} {w : Workspace} {f : Files}

theorem abi_used {n : Nat} (hu : Used h n f h') :
    ∃ r h'', (abi s w).on h' = (r, h'') ∧
      Used h (n + 1) (written w.root (outcomeAt s h n) f) h'' ∧
      (r = optionOf spokenText (abiCommand s w) s.abiTimeout (outcomeAt s h n) ∨
        Unmeasured h r) := by
  refine option_used hu rfl (fun _ h₁ => on_log_pure _ _ _ h₁) fun out h₁ => ?_
  simp only [spokenText]
  split
  · exact on_log_pure _ _ _ h₁
  · exact ⟨h₁, rfl, .refl h₁⟩

theorem gas_used {n : Nat} (hu : Used h n f h') :
    ∃ r h'', (gas s w).on h' = (r, h'') ∧
      Used h (n + 1) (written w.root (outcomeAt s h n) f) h'' ∧
      (r = optionOf spokenGas (gasCommand s w) s.gasTimeout (outcomeAt s h n) ∨
        Unmeasured h r) := by
  exact option_used hu rfl (fun _ h₁ => on_log_pure _ _ _ h₁) fun _ h₁ => ⟨h₁, rfl, .refl h₁⟩

/-- The result that an answer comes to. -/
def resultOf : Except Failure BuildResult → Option BuildResult
  | .ok result => some result
  | .error e => failed e

/-- The answer comes to what is decided, unless a time cannot be measured. -/
def Agrees (h : Host) (r : Except Failure BuildResult) (o : Option BuildResult) : Prop :=
  resultOf r = o ∨ Unmeasured h r

theorem Agrees.of_unmeasured {α : Type} {e : Failure} {o : Option BuildResult}
    (hu : Unmeasured h (.error e : Except Failure α)) : Agrees h (.error e) o := by
  obtain ⟨e', he, hu'⟩ := hu.error (β := BuildResult)
  cases he
  exact .inr hu'

theorem not_unmeasured_ok {α : Type} {a : α} : ¬ Unmeasured h (.ok a : Except Failure α) := by
  rintro ⟨_, _, _, _, _, _, hr⟩
  cases hr

/-- Work that goes on with an answer comes to what is decided from the answer that belongs to the
outcome. -/
theorem agrees_bind {α : Type} {first : Run α} {next : α → Run BuildResult} {h₁ : Host}
    {r answer : Except Failure α} {o : Option BuildResult} (hr : first.on h' = (r, h₁))
    (hanswer : r = answer ∨ Unmeasured h r) (herror : ∀ e, answer = .error e → o = failed e)
    (hnext : ∀ a, answer = .ok a → Agrees h ((next a).on h₁).1 o) :
    Agrees h ((first >>= next).on h').1 o := by
  cases r with
  | error e =>
    rw [on_bind_error hr]
    rcases hanswer with hanswer | hunmeasured
    · exact .inl (herror e hanswer.symm).symm
    · exact .of_unmeasured hunmeasured
  | ok a =>
    rw [on_bind_ok hr]
    exact hnext a (hanswer.resolve_right not_unmeasured_ok).symm

/-- A message and then a result comes to the result. -/
theorem agrees_log (level : LogLevel) (message : Text) (result : BuildResult) :
    Agrees h ((log level message >>= fun _ => pure result).on h').1 (some result) := by
  obtain ⟨h₁, hlog, -⟩ := on_log_pure level message result h'
  rw [hlog]
  exact .inl rfl

theorem package_agrees (hu : Used h 3 f h') (warnings : List Diagnostic) {bytes : Bytes}
    (hb : bytes ≠ []) :
    Agrees h ((package s w warnings bytes hb).on h').1 (decideSuccess s h w warnings bytes hb) := by
  obtain ⟨r₁, h₁, hr₁, hu₁, habi⟩ := abi_used (s := s) (w := w) hu
  obtain ⟨r₂, h₂, hr₂, -, hgas⟩ := gas_used (s := s) (w := w) hu₁
  unfold package decideSuccess
  refine agrees_bind hr₁ habi (fun e he => by rw [he]) fun abi habi => ?_
  rw [habi]
  refine agrees_bind hr₂ hgas (fun e he => by rw [he]) fun gas hgas => ?_
  rw [hgas]
  exact agrees_log _ _ _

/-- Whether an entry is a file. -/
def isFileEntry : Option Entry → Bool
  | some (.file _) => true
  | _ => false

theorem isFile_eq (f : Files) (p : Path) : f.isFile p = (f.find? p).map isFileEntry := by
  unfold Files.isFile
  refine congrArg (fun g => Except.map g (f.find? p)) (funext fun e => ?_)
  match e with
  | some (.file _) => rfl
  | some .directory => rfl
  | some (.link _) => rfl
  | none => rfl

theorem on_artifact (w : Workspace) (h : Host) :
    (artifact w).on h = (match h.files.find? w.artifactPath with
      | .error e => .error (.file e)
      | .ok (some (.file content)) => .ok content
      | .ok _ => .ok [], h) := by
  have hfile := on_ask h (·.isFile w.artifactPath)
  rw [isFile_eq] at hfile
  unfold artifact
  cases hf : h.files.find? w.artifactPath with
  | error e =>
    rw [hf] at hfile
    rw [on_bind_error hfile]
  | ok entry =>
    rw [hf] at hfile
    rw [on_bind_ok hfile]
    match entry with
    | some (.file content) =>
      show (Run.ask (·.read w.artifactPath)).on h = _
      rw [on_ask, read_of_find? hf]
      rfl
    | some .directory => rfl
    | some (.link target) => rfl
    | none => rfl

/-- Without an artifact its place is looked at once more, for the wording. -/
theorem finish_of_missing (hu : Used h 3 f h') (warnings : List Diagnostic) {entry : Option Entry}
    (hf : f.find? w.artifactPath = .ok entry) (hbytes : (artifact w).on h' = (.ok [], h')) :
    ((finish s w warnings).on h').1 = .ok (.failure (.ofError
      (artifactDiagnostic (isFileEntry entry) w.artifactText) .environment warnings)) := by
  obtain ⟨h₁, hlog, hn⟩ := noted_log .error
    ("Artifact missing or empty at " ++ w.artifactPath.text) h'
  have hask := on_ask h₁ (·.isFile w.artifactPath)
  rw [isFile_eq, hn.files, hu.files, hf] at hask
  rw [finish, on_bind_ok hbytes]
  simp only
  rw [on_bind_ok hlog, on_bind_ok hask]
  rfl

theorem finish_agrees (hu : Used h 3 f h') (warnings : List Diagnostic) :
    Agrees h ((finish s w warnings).on h').1 (decideArtifact s h w warnings f) := by
  have hartifact := on_artifact w h'
  unfold decideArtifact
  rw [hu.files] at hartifact
  cases hf : f.find? w.artifactPath with
  | error e =>
    rw [hf] at hartifact
    rw [finish, on_bind_error hartifact]
    exact .inl rfl
  | ok entry =>
    rw [hf] at hartifact
    match entry with
    | some (.file (b :: bytes)) =>
      rw [finish, on_bind_ok hartifact]
      exact package_agrees hu warnings _
    | some (.file []) =>
      rw [finish_of_missing hu warnings hf hartifact]
      exact .inl rfl
    | some .directory =>
      rw [finish_of_missing hu warnings hf hartifact]
      exact .inl rfl
    | some (.link target) =>
      rw [finish_of_missing hu warnings hf hartifact]
      exact .inl rfl
    | none =>
      rw [finish_of_missing hu warnings hf hartifact]
      exact .inl rfl

/-- The report of a stage is the one that belongs to the outcome of its command. -/
theorem report_used {n : Nat} (hu : Used h n f h') {c : Command} (hc : c.program = s.cargo)
    (budget : Binary64) (label : Text) :
    ∃ r h'', (Run.command c budget >>= interpret label).on h' = (r, h'') ∧
      Used h (n + 1) (written (c.directory.getD Path.here) (outcomeAt s h n) f) h'' ∧
      (r = reportOf label c budget (outcomeAt s h n) ∨ Unmeasured h r) := by
  obtain ⟨r, h₁, hr, hu₁, hanswer⟩ := command_used hu hc budget
  unfold reportOf
  cases r with
  | error e =>
    refine ⟨_, h₁, by rw [on_bind_error hr], hu₁, ?_⟩
    rcases hanswer with hanswer | hunmeasured
    · rw [← hanswer]
      exact .inl rfl
    · obtain ⟨e', he, hu'⟩ := hunmeasured.error (β := StageReport)
      cases he
      exact .inr hu'
  | ok out =>
    refine ⟨_, h₁, by rw [on_bind_ok hr, interpret, on_answer], hu₁, .inl ?_⟩
    rw [← hanswer.resolve_right not_unmeasured_ok]
    rfl

theorem build_agrees (hu : Used h 2 f h') (warnings : List Diagnostic) :
    Agrees h ((build s w warnings).on h').1 (decideBuild s h w warnings f) := by
  obtain ⟨r, h₁, hr, hu₁, hreport⟩ :=
    report_used hu (c := buildCommand s w) rfl s.buildTimeout "cargo build"
  unfold build decideBuild
  rw [← bind_assoc]
  refine agrees_bind hr hreport (fun e he => by rw [he]) fun report hok => ?_
  rw [hok]
  match report with
  | ⟨e :: errors, others⟩ => exact agrees_log _ _ _
  | ⟨[], others⟩ => exact finish_agrees hu₁ _

theorem stages_agrees (hu : Used h 1 f h') :
    Agrees h ((stages s w).on h').1 (decideCheck s h w f) := by
  obtain ⟨r, h₁, hr, hu₁, hreport⟩ :=
    report_used hu (c := checkCommand s w) rfl s.checkTimeout "cargo stylus check"
  unfold stages decideCheck
  rw [← bind_assoc]
  refine agrees_bind hr hreport (fun e he => by rw [he]) fun report hok => ?_
  rw [hok]
  match report with
  | ⟨e :: errors, others⟩ => exact agrees_log _ _ _
  | ⟨[], others⟩ => exact build_agrees hu₁ _

end Steps

/-- If the clock stands still, no time is too long for a number. -/
theorem not_unmeasured_of_still {α : Type} {h : Host} {t : Timestamp} {r : Except Failure α}
    (hstill : h.times.values = [t]) : ¬ Unmeasured h r := by
  rintro ⟨start, hs, finish, hf, e, hd, -⟩
  rw [hstill, List.mem_singleton] at hs hf
  subst hs hf
  obtain ⟨x, hx⟩ := Binary64.quotient_ok (a := 0) (b := 1000000) (Nat.zero_le _)
  rw [Timestamp.secondsTo, Timestamp.microsecondsTo_self, hx] at hd
  cases hd

/-! ## The run of a compilation -/

/-- A failure that is passed on from a step which need not succeed is no matter of the build. -/
theorem failed_of_optionOf {read : CommandOutput → Option Text} {c : Command} {budget : Binary64}
    {o : Spawn} {e : Failure} (h : optionOf read c budget o = .error e) : failed e = none := by
  unfold optionOf at h
  cases ha : answerOf c budget o with
  | ok out => rw [ha] at h; cases h
  | error e' =>
    rw [ha] at h
    cases hs : e'.isSystemError with
    | true => simp only [hs, if_true] at h; cases h
    | false =>
      simp only [hs, Bool.false_eq_true, if_false, Except.error.injEq] at h
      subst h
      unfold answerOf at ha
      split at ha
      · cases ha; cases hs
      · cases ha; rfl
      · split at ha
        · cases ha; cases hs
        · cases ha; rfl
        · cases ha

/-- The end of a compilation answers with the result that the answer comes to, or passes the
failure on. -/
theorem compileEnd_answer (r : Except Failure BuildResult) (h : Host) :
    (∃ result, resultOf r = some result ∧ ((compileEnd r).on h).1 = .ok result) ∨
      ∃ e, r = .error e ∧ failed e = none ∧ ((compileEnd r).on h).1 = .error e := by
  -- an overrun has an arm of its own, so the last arm is stated for the failures that are none
  have henvironment : ∀ e, (∀ o, e ≠ .overrun o) →
      (failed e = if isEnvironmental e then
          some (.failure (.ofError (.error e.message) .environment)) else none) ∧
        compileEnd (.error e) = if isEnvironmental e then (do
          Run.log .error ("Build environment error: " ++ e.message)
          return .failure (.ofError (.error e.message) .environment)) else throw e := by
    intro e he
    cases e with
    | overrun o => exact absurd rfl (he o)
    | _ => exact ⟨rfl, rfl⟩
  match r with
  | .ok result => exact .inl ⟨result, rfl, rfl⟩
  | .error e =>
    by_cases ho : ∃ o, e = .overrun o
    · obtain ⟨o, rfl⟩ := ho
      exact .inl ⟨_, rfl, rfl⟩
    · obtain ⟨hfailed, hend⟩ := henvironment e fun o h => ho ⟨o, h⟩
      rw [resultOf, hfailed, hend]
      cases he : isEnvironmental e with
      | true =>
        obtain ⟨h₁, hlog, -⟩ := noted_log .error ("Build environment error: " ++ e.message) h
        rw [if_pos rfl, if_pos rfl, on_bind_ok hlog]
        exact .inl ⟨_, rfl, rfl⟩
      | false => exact .inr ⟨e, rfl, by rw [hfailed, he]; rfl, rfl⟩

/-- The answer `r` comes to the same at the end of a compilation as what was decided. -/
theorem compileEnd_of_agrees {h : Host} {r : Except Failure BuildResult} {o : Option BuildResult}
    (ha : Agrees h r o) (h₁ : Host) :
    (((compileEnd r).on h₁).1).toOption = o ∨ Unmeasured h ((compileEnd r).on h₁).1 := by
  rcases ha with rfl | hunmeasured
  · rcases compileEnd_answer r h₁ with ⟨result, hr, hend⟩ | ⟨e, rfl, he, hend⟩
    · rw [hend, hr]
      exact .inl rfl
    · rw [hend, resultOf, he]
      exact .inl rfl
  · obtain ⟨e, rfl, hu⟩ := hunmeasured.error (β := BuildResult)
    exact .inr hu

/-- What a tree keeps, whatever the processes write: its entries, and that it is a tree. -/
theorem preserves_directoryAt {root : Path} {p : Position} (s : Settings) (w : Workspace)
    (arguments : List Text) (budget : Binary64) :
    Preserves (fun _ _ _ => True) (fun g => g.IsTree ∧ g.DirectoryAt root p)
      (Run.command (command s (some w.root) arguments) budget) := by
  refine preserves_command budget fun g child hg _ => ?_
  obtain ⟨htree, hkeeps⟩ :=
    isTree_keeps_of_edits hg.1 (FileRun.edits_plantAll w.root child.writes g)
  exact ⟨htree, hg.2.keeps hkeeps⟩

theorem isTree_written {f : Files} (ht : f.IsTree) (base : Path) (o : Spawn) :
    (written base o f).IsTree := by
  unfold written
  split
  · exact (isTree_keeps_of_edits ht (FileRun.edits_plantAll _ _ _)).1
  · exact ht

section Within

variable {α : Type} {parent : Path} {project source template : Text} {h : Host} {g : Files}

/-- The failure of a workspace that cannot be made is the answer of the work in it. -/
theorem within_answer_of_error {e : Failure} (work : Workspace → Run α)
    (hf : (named parent project h).filling source template h.files = (.error e, g)) :
    ((within parent project source template work).on h).1 =
      .error (setupFailure (named parent project h) e g) := by
  rw [within_of_error work hf, release_answer]
  simp only [setupFailure, drawn]
  cases (g.withoutTree (named parent project h).root).isThere (named parent project h).root <;> rfl

/-- In a workspace that can be made, the answer is that of the work. -/
theorem within_answer_of_ok (ht : h.files.IsTree) (work : Workspace → Run α)
    (hwork : ∀ p, Preserves (fun _ _ _ => True)
      (fun k => k.IsTree ∧ k.DirectoryAt (named parent project h).root p)
      (work (named parent project h)))
    (hf : (named parent project h).filling source template h.files = (.ok (), g)) :
    ∃ h₁, (drawn h g).Noted h₁ ∧ ((within parent project source template work).on h).1 =
      ((work (named parent project h)).on h₁).1 := by
  obtain ⟨h₁, hn, hwithin⟩ := within_of_ok work hf
  obtain ⟨htree, p, hd⟩ := directoryAt_of_filling ht hf
  have hkept := (hwork p).files h₁ (fun _ _ _ _ => trivial) (by rw [hn.files]; exact ⟨htree, hd⟩)
  refine ⟨h₁, hn, ?_⟩
  rw [hwithin, release_ok hkept.2]
  rfl

end Within

theorem within_agrees {s : Settings} {source project : Text} {h h' : Host} {f : Files}
    (hu : Used h 1 f h') (ht : f.IsTree) :
    Agrees h ((within s.tempRoot project source Manifest.contract (stages s)).on h').1
      (decideWorkspace s h (named s.tempRoot project h') source f) := by
  unfold decideWorkspace
  rw [← hu.files] at ht ⊢
  cases hf : (named s.tempRoot project h').filling source Manifest.contract h'.files with
  | mk r g =>
    cases r with
    | error e =>
      rw [within_answer_of_error (stages s) hf]
      exact .inl rfl
    | ok =>
      obtain ⟨h₁, hn, hanswer⟩ := within_answer_of_ok ht (stages s)
        (fun p => preserves_stages (preserves_directoryAt (p := p) s _)) hf
      have hu₁ : Used h 1 g h₁ := hu.filled hn
      rw [hanswer]
      exact stages_agrees hu₁

/-- A compilation comes to what is decided, unless a time cannot be measured. -/
theorem compile_agrees {s : Settings} {source project : Text} {h : Host} (ht : h.files.IsTree) :
    ((compile s source project).on h).1.toOption = decision s source project h ∨
      Unmeasured h ((compile s source project).on h).1 := by
  have hu : Used h 0 h.files h := ⟨rfl, rfl, List.Subset.refl _⟩
  obtain ⟨r, h₁, hr, hu₁, hversion⟩ := version_used (s := s) hu
  have hnamed := named_after_version (s := s) s.tempRoot project h
  rw [hr] at hnamed
  rw [decision, on_compile hr]
  -- the probe was interrupted, or it found no tool, or the work in the workspace begins
  match r with
  | .error e =>
    rcases hversion with hversion | hunmeasured
    · rw [← hversion]
      exact .inl (failed_of_optionOf hversion.symm).symm
    · obtain ⟨e', he, hu'⟩ := hunmeasured.error (β := BuildResult)
      cases he
      exact .inr hu'
  | .ok none =>
    rw [← hversion.resolve_right not_unmeasured_ok]
    obtain ⟨h₂, hlog, -⟩ := noted_log .error "cargo-stylus is not installed" h₁
    simp only
    rw [toolMissing, on_bind_ok hlog]
    exact .inl rfl
  | .ok (some v) =>
    rw [← hversion.resolve_right not_unmeasured_ok]
    refine compileEnd_of_agrees ?_ _
    rw [← hnamed]
    exact within_agrees hu₁ (isTree_written ht Path.here (outcomeAt s h 0))

/-- A compilation that returns, returns what is decided. -/
theorem eq_decision_of_compile {s : Settings} {source project : Text} {h : Host}
    {result : BuildResult} (ht : h.files.IsTree)
    (hr : ((compile s source project).on h).1 = .ok result) :
    decision s source project h = some result := by
  have hagrees : ((compile s source project).on h).1.toOption = decision s source project h ∨ _ :=
    compile_agrees ht
  rw [hr] at hagrees
  exact (hagrees.resolve_right not_unmeasured_ok).symm

/-- Where the artifact cannot be looked for, this is the failure that is told, whatever warnings the
check and the build have reported before. -/
theorem decision_of_find?_error {s : Settings} {source project version : Text} {h : Host}
    {checked built : List Diagnostic} {e : FileError}
    (hprobe : optionOf spokenText (versionCommand s) s.probeTimeout (outcomeAt s h 0) =
      .ok (some version))
    (hfill : ((named s.tempRoot project h).filling source Manifest.contract
      (written Path.here (outcomeAt s h 0) h.files)).1 = .ok ())
    (hcheck : reportOf "cargo stylus check" (checkCommand s (named s.tempRoot project h))
      s.checkTimeout (outcomeAt s h 1) = .ok ⟨[], checked⟩)
    (hbuild : reportOf "cargo build" (buildCommand s (named s.tempRoot project h)) s.buildTimeout
      (outcomeAt s h 2) = .ok ⟨[], built⟩)
    (hfind : (written (named s.tempRoot project h).root (outcomeAt s h 2)
      (written (named s.tempRoot project h).root (outcomeAt s h 1)
        ((named s.tempRoot project h).filling source Manifest.contract
          (written Path.here (outcomeAt s h 0) h.files)).2)).find?
        (named s.tempRoot project h).artifactPath = .error e) :
    decision s source project h = failed (.file e) := by
  rw [decision, hprobe]
  generalize named s.tempRoot project h = w at *
  simp only
  rw [decideWorkspace]
  cases hf : w.filling source Manifest.contract (written Path.here (outcomeAt s h 0) h.files) with
  | mk r g =>
    rw [hf] at hfill hfind
    cases hfill
    simp only
    rw [decideCheck, hcheck]
    simp only
    rw [decideBuild, hbuild]
    simp only
    rw [decideArtifact, hfind]

/-- A host on which the tool is there, the check warns, and the build turns the directory of its
output into a link that no file system can follow. -/
def linkedTargetHost : Host :=
  { spawns :=
      [.started { ending := .exited 0 (Text.encode "cargo stylus 0.5.3\n") [] },
        .started { ending := .exited 0 [] (Text.encode "warning: unused variable\n") },
        .started
          { writes := [(Path.ofText "target", .link (List.replicate 256 'a'))]
            ending := .exited 0 [] [] }] }

theorem decision_linkedTarget :
    decision { tempRoot := Path.ofText "builds" } "fn main();" "contract" linkedTargetHost =
      failed (.file (.refused .nameTooLong
        (named (Path.ofText "builds") "contract" linkedTargetHost).artifactPath)) := by
  -- Each command is judged by itself, so that no judgement runs the whole decision.
  have hprobe : optionOf spokenText (versionCommand {}) (Settings.probeTimeout {})
      (outcomeAt {} linkedTargetHost 0) = .ok (some "cargo stylus 0.5.3") := by
    decide +kernel
  have hcheck : reportOf "cargo stylus check"
      (checkCommand {} (named (Path.ofText "builds") "contract" linkedTargetHost))
      (Settings.checkTimeout {}) (outcomeAt {} linkedTargetHost 1) =
        .ok ⟨[], [.warning "unused variable"]⟩ := by
    decide +kernel
  have hbuild : reportOf "cargo build"
      (buildCommand {} (named (Path.ofText "builds") "contract" linkedTargetHost))
      (Settings.buildTimeout {}) (outcomeAt {} linkedTargetHost 2) = .ok ⟨[], []⟩ := by
    decide +kernel
  exact decision_of_find?_error (s := { tempRoot := Path.ofText "builds" }) hprobe
    (by decide +kernel) hcheck hbuild (by decide +kernel)

/-- On that host the artifact cannot be looked for. -/
theorem compile_linkedTarget :
    ((compile { tempRoot := Path.ofText "builds" } "fn main();" "contract").on
        linkedTargetHost).1.toOption =
      some (.failure (.ofError (.error (FileError.refused .nameTooLong
        (named (Path.ofText "builds") "contract" linkedTargetHost).artifactPath).message)
          .environment [])) := by
  rcases compile_agrees (h := linkedTargetHost) (isTree_of_entries (by decide)) with
    hagrees | hunmeasured
  · exact hagrees.trans decision_linkedTarget
  · exact absurd hunmeasured (not_unmeasured_of_still rfl)

theorem eq_decision_of_compile_linkedTarget :
    ∃ result, ((compile { tempRoot := Path.ofText "builds" } "fn main();" "contract").on
        linkedTargetHost).1 = .ok result ∧
      decision { tempRoot := Path.ofText "builds" } "fn main();" "contract" linkedTargetHost =
        some result := by
  cases hr : ((compile { tempRoot := Path.ofText "builds" } "fn main();" "contract").on
      linkedTargetHost).1 with
  | error e =>
    have hreturns := compile_linkedTarget
    rw [hr] at hreturns
    cases hreturns
  | ok result =>
    exact ⟨result, rfl, eq_decision_of_compile (isTree_of_entries (by decide)) hr⟩

/-- The files on that host once the build has run. -/
def linkedTargetFiles (w : Workspace) : Files :=
  written w.root (outcomeAt {} linkedTargetHost 2)
    (written w.root (outcomeAt {} linkedTargetHost 1)
      (w.filling "fn main();" Manifest.contract {}).2)

/-- Both stages pass, the check with a warning, and no artifact can be found; but as its place
cannot be looked at, the failure of the environment is told without the warning. -/
theorem warnings_lost_linkedTarget :
    (StageReport.ofOutput "cargo stylus check" ⟨0, [], "warning: unused variable\n"⟩).toOption =
        some ⟨[], [.warning "unused variable"]⟩ ∧
      (StageReport.ofOutput "cargo build" ⟨0, [], []⟩).toOption = some ⟨[], []⟩ ∧
      ((linkedTargetFiles (named (Path.ofText "builds") "contract" linkedTargetHost)).find?
        (named (Path.ofText "builds") "contract" linkedTargetHost).artifactPath).toOption =
          none ∧
      ((compile { tempRoot := Path.ofText "builds" } "fn main();" "contract").on
          linkedTargetHost).1.toOption =
        some (.failure (.ofError (.error (Text.join []
          ["[Errno 36] File name too long: 'builds/contract-1700000000000000000-01234567/",
            "target/wasm32-unknown-unknown/release/contract.wasm'"])) .environment [])) := by
  have hplain : ∀ c ∈ (named (Path.ofText "builds") "contract" linkedTargetHost).artifactPath.text,
      Text.isUnescaped c = true := by
    decide +kernel
  refine ⟨by decide +kernel, by decide +kernel, by decide +kernel, ?_⟩
  rw [compile_linkedTarget, FileError.message_of_isUnescaped hplain]
  decide +kernel

end ContractBuild.Toolchain
