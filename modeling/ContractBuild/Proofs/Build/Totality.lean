import ContractBuild.Proofs.Build.Decision
import ContractBuild.Proofs.Build.Manifest
import ContractBuild.Proofs.Diagnostic.Parser
import ContractBuild.Proofs.Files.Refusal
import ContractBuild.Proofs.Host.Timestamp

/-!
# Failures that are no results

When a compilation and a check of the syntax end with a result at all. Every failure of the host
and of the tools becomes a result. What does not is a directory whose text cannot be a path, and an
output with a location that cannot be read.

Main statement: if no process is cancelled or interrupted and the clock shows real times, these are
the only ways out without a result (`Toolchain.returns_iff_not_escapes`). One location with a line
of 4301 digits is enough (`Toolchain.isUnreadable_longLocation`).
-/

set_option autoImplicit false

namespace ContractBuild

/-! ## Making a workspace -/

namespace Workspace

open Files FileRun

variable {f g : Files} {w : Workspace} {source template : Text}

/-- A workspace whose directory is no path cannot be filled, and nothing is made. -/
theorem filling_null (hnull : '\x00' ∈ w.root.text) :
    w.filling source template f = (.error (.file .embeddedNull), f) := by
  have hmade : (makeDirectories false w.sourceDirectory).on f = (.error .embeddedNull, f) :=
    on_makeDirectories_null (Path.null_of_null hnull _) f
  rw [filling, hmade]

/-- A workspace whose directory is a path is filled, or the host refuses a step of it. -/
theorem filling_refused (ht : f.IsTree) (hnull : '\x00' ∉ w.root.text)
    (htemplate : template = Manifest.contract ∨ template = Manifest.validator) {e : Failure}
    (h : w.filling source template f = (.error e, g)) :
    ∃ fault p, e = .file (.refused fault p) := by
  have hsource : '\x00' ∉ w.sourceDirectory.text :=
    fun h => hnull ((Path.null_child_iff _ (by decide)).1 h)
  have hrefusal : ∀ cause : FileError, cause ≠ .embeddedNull →
      ∃ fault p, Failure.file cause = .file (.refused fault p) := by
    intro cause hcause
    cases cause with
    | embeddedNull => exact absurd rfl hcause
    | refused fault p => exact ⟨fault, p, rfl⟩
  unfold filling at h
  split at h
  · rename_i cause k hm
    cases h
    exact hrefusal cause (makeDirectories_refused ht hsource hm)
  · obtain ⟨manifest, hmanifest⟩ := Manifest.expands htemplate w.crate
    rw [hmanifest] at h
    simp only at h
    split at h
    · rename_i cause hw
      cases h
      exact hrefusal cause
        (written_refused (fun h => hnull ((Path.null_child_iff _ (by decide)).1 h)) hw)
    · split at h
      · rename_i cause hw
        cases h
        exact hrefusal cause
          (written_refused (fun h => hsource ((Path.null_child_iff _ (by decide)).1 h)) hw)
      · cases h

end Workspace

/-! ## Unreadable outputs -/

/-- No process is cancelled, and none is interrupted when it is started. -/
def Host.IsQuiet (h : Host) : Prop :=
  ∀ o ∈ h.spawns, o ≠ .interrupted ∧ ∀ child, o = .started child → child.ending ≠ .cancelled

/-- All readings of the clock are real times. -/
def Host.HasRealTimes (h : Host) : Prop :=
  ∀ t ∈ h.times.values, t.IsReal

/-- What a process says on its error stream cannot be read. -/
def Spawn.IsUnreadable (o : Spawn) : Prop :=
  ∃ child code stdout stderr, o = .started child ∧ child.ending = .exited code stdout stderr ∧
    HasOverlong (Text.lines (Text.decodeLossy stderr))

namespace StageReport

/-- A stage has no report exactly if the error stream cannot be read. -/
theorem ofOutput_refuses_iff (stage : Text) (out : CommandOutput) :
    (∃ e, ofOutput stage out = .error e) ↔ HasOverlong (Text.lines out.stderr) := by
  rw [← Diagnostic.parse_refuses_iff, ofOutput, diagnostics]
  cases Diagnostic.parse out.stderr with
  | error e => exact ⟨fun _ => ⟨e, rfl⟩, fun _ => ⟨e, rfl⟩⟩
  | ok ds =>
    constructor
    · rintro ⟨e, he⟩
      cases he
    · rintro ⟨e, he⟩
      cases he

end StageReport

namespace Toolchain

open Files Workspace Run

section Outcomes

variable {s : Settings} {h : Host}

/-- The outcome of a process is neither a cancellation nor an interruption. -/
theorem outcomeAt_quiet (hq : h.IsQuiet) (n : Nat) :
    outcomeAt s h n ≠ .interrupted ∧
      ∀ child, outcomeAt s h n = .started child → child.ending ≠ .cancelled := by
  unfold outcomeAt
  cases hs : h.spawns.drop n with
  | nil => exact ⟨by simp, fun child hc => by cases hc⟩
  | cons o rest =>
    have hmem : o ∈ h.spawns := List.mem_of_mem_drop (hs ▸ List.mem_cons_self)
    exact hq o hmem

/-- A command that fails, and is neither cancelled nor interrupted, fails for a reason that becomes a
result. -/
theorem isSystemError_of_answerOf {o : Spawn}
    (ho : o ≠ .interrupted ∧ ∀ child, o = .started child → child.ending ≠ .cancelled)
    {c : Command} {budget : Binary64} {e : Failure} (he : answerOf c budget o = .error e) :
    e.isSystemError = true := by
  obtain ⟨hinterrupted, hcancelled⟩ := ho
  unfold answerOf at he
  split at he
  · cases he; rfl
  · exact absurd rfl hinterrupted
  · rename_i child
    split at he
    · cases he; rfl
    · rename_i hending
      exact absurd hending (hcancelled child rfl)
    · cases he

theorem optionOf_ok {o : Spawn}
    (ho : o ≠ .interrupted ∧ ∀ child, o = .started child → child.ending ≠ .cancelled)
    (read : CommandOutput → Option Text) (c : Command) (budget : Binary64) :
    ∃ r, optionOf read c budget o = .ok r := by
  unfold optionOf
  cases ha : answerOf c budget o with
  | ok out => exact ⟨read out, rfl⟩
  | error e => exact ⟨none, if_pos (isSystemError_of_answerOf ho ha)⟩

end Outcomes

/-! ## Compilations without a result -/

section Compiling

variable {s : Settings} {h : Host} {w : Workspace}

theorem failed_of_isSystemError {e : Failure} (he : e.isSystemError = true) :
    ∃ result, failed e = some result := by
  cases e with
  | overrun o => exact ⟨_, rfl⟩
  | os o => exact ⟨_, rfl⟩
  | file cause => exact ⟨_, if_pos he⟩
  | source fault => exact ⟨_, if_pos he⟩
  | _ => cases he

theorem isUnreadable_iff {c : Command} {budget : Binary64} {o : Spawn} {out : CommandOutput}
    (ha : answerOf c budget o = .ok out) :
    o.IsUnreadable ↔ HasOverlong (Text.lines out.stderr) := by
  obtain ⟨child, code, stdout, stderr, rfl, hending, rfl⟩ := says_of_answerOf ha
  constructor
  · rintro ⟨child', code', stdout', stderr', ho, hending', hlong⟩
    cases ho
    rw [hending] at hending'
    cases hending'
    exact hlong
  · intro hlong
    exact ⟨child, code, stdout, stderr, rfl, hending, hlong⟩

/-- The report of a stage on a quiet host: it becomes a result or it can be read, unless the output
cannot be read. -/
theorem reportOf_quiet (hq : h.IsQuiet) (label : Text) (c : Command) (budget : Binary64) (n : Nat) :
    ((outcomeAt s h n).IsUnreadable ∧
        ∃ e, reportOf label c budget (outcomeAt s h n) = .error e ∧ failed e = none) ∨
      (¬ (outcomeAt s h n).IsUnreadable ∧
        ((∃ e result, reportOf label c budget (outcomeAt s h n) = .error e ∧
            failed e = some result) ∨
          ∃ report, reportOf label c budget (outcomeAt s h n) = .ok report)) := by
  unfold reportOf
  cases ha : answerOf c budget (outcomeAt s h n) with
  | error e =>
    obtain ⟨result, hresult⟩ := failed_of_isSystemError
      (isSystemError_of_answerOf (outcomeAt_quiet hq n) ha)
    refine .inr ⟨?_, .inl ⟨e, result, rfl, hresult⟩⟩
    rintro ⟨child, code, stdout, stderr, ho, hending, -⟩
    simp only [ho, answerOf, hending] at ha
    cases ha
  | ok out =>
    rw [isUnreadable_iff ha, ← StageReport.ofOutput_refuses_iff label]
    cases hr : StageReport.ofOutput label out with
    | error e => exact .inl ⟨⟨e, rfl⟩, .digits e, by simp only [hr, Except.mapError], rfl⟩
    | ok report =>
      refine .inr ⟨?_, .inr ⟨report, by simp only [hr, Except.mapError]⟩⟩
      rintro ⟨e, he⟩
      cases he

theorem decideArtifact_isSome (hq : h.IsQuiet) (warnings : List Diagnostic) (f : Files) :
    ∃ result, decideArtifact s h w warnings f = some result := by
  unfold decideArtifact
  split
  · rename_i e he
    refine failed_of_isSystemError ?_
    cases e with
    | embeddedNull => exact absurd rfl (find?_refused he)
    | refused fault p => rfl
  · obtain ⟨abi, habi⟩ := optionOf_ok (outcomeAt_quiet (s := s) hq 3) spokenText (abiCommand s w)
      s.abiTimeout
    obtain ⟨gas, hgas⟩ := optionOf_ok (outcomeAt_quiet (s := s) hq 4) spokenGas (gasCommand s w)
      s.gasTimeout
    rw [decideSuccess, habi, hgas]
    exact ⟨_, rfl⟩
  · exact ⟨_, rfl⟩
  · exact ⟨_, rfl⟩

theorem decideBuild_eq_none_iff (hq : h.IsQuiet) (warnings : List Diagnostic) (f : Files) :
    decideBuild s h w warnings f = none ↔ (outcomeAt s h 2).IsUnreadable := by
  unfold decideBuild
  rcases reportOf_quiet hq "cargo build" (buildCommand s w) s.buildTimeout 2 with
    ⟨hout, e, hr, he⟩ | ⟨hout, ⟨e, result, hr, he⟩ | ⟨⟨errors, others⟩, hr⟩⟩
  · rw [hr]
    exact ⟨fun _ => hout, fun _ => he⟩
  · rw [hr]
    simp only [he, reduceCtorEq, hout]
  · rw [hr]
    cases errors with
    | nil =>
      obtain ⟨result, hresult⟩ := decideArtifact_isSome (s := s) (w := w) hq
        (Diagnostic.merge warnings others) (written w.root (outcomeAt s h 2) f)
      simp only [hresult, reduceCtorEq, hout]
    | cons e errors => simp only [reduceCtorEq, hout]

/-- The check reports no errors. -/
def ChecksOut (s : Settings) (h : Host) (w : Workspace) : Prop :=
  ∃ others, reportOf "cargo stylus check" (checkCommand s w) s.checkTimeout (outcomeAt s h 1) =
    .ok ⟨[], others⟩

theorem decideCheck_eq_none_iff (hq : h.IsQuiet) (f : Files) :
    decideCheck s h w f = none ↔
      (outcomeAt s h 1).IsUnreadable ∨ (ChecksOut s h w ∧ (outcomeAt s h 2).IsUnreadable) := by
  unfold decideCheck ChecksOut
  rcases reportOf_quiet hq "cargo stylus check" (checkCommand s w) s.checkTimeout 1 with
    ⟨hout, e, hr, he⟩ | ⟨hout, ⟨e, result, hr, he⟩ | ⟨⟨errors, others⟩, hr⟩⟩
  · rw [hr]
    exact ⟨fun _ => .inl hout, fun _ => he⟩
  · rw [hr]
    simp [he, hout]
  · rw [hr]
    cases errors with
    | nil => simp [decideBuild_eq_none_iff hq, hout]
    | cons e errors => simp [hout]

/-- The failure to make a workspace becomes a result unless its directory is no path. -/
theorem failed_setupFailure (fault : FileFault) (p : Path) (f : Files) :
    ∃ result, failed (setupFailure w (.file (.refused fault p)) f) = some result := by
  unfold setupFailure
  split
  · rename_i e he
    refine failed_of_isSystemError ?_
    cases e with
    | embeddedNull => exact absurd rfl (isThere_refused he)
    | refused fault p => rfl
  · exact ⟨_, rfl⟩

theorem failed_setupFailure_null {f : Files} (hnull : '\x00' ∈ w.root.text) :
    failed (setupFailure w (.file .embeddedNull) f) = none := by
  have hthere : (f.withoutTree w.root).isThere w.root = .ok false := by
    unfold isThere find?
    rw [locate_embeddedNull_iff.2 hnull]
    rfl
  rw [setupFailure, hthere]
  rfl

theorem decideWorkspace_eq_none_iff (hq : h.IsQuiet) {f : Files} (ht : f.IsTree) (source : Text) :
    decideWorkspace s h w source f = none ↔
      '\x00' ∈ w.root.text ∨
        ((w.filling source Manifest.contract f).1 = .ok () ∧
          ((outcomeAt s h 1).IsUnreadable ∨
            (ChecksOut s h w ∧ (outcomeAt s h 2).IsUnreadable))) := by
  unfold decideWorkspace
  by_cases hnull : '\x00' ∈ w.root.text
  · rw [filling_null hnull]
    simp only [hnull, true_or, iff_true]
    exact failed_setupFailure_null hnull
  · cases hf : w.filling source Manifest.contract f with
    | mk r g =>
      cases r with
      | error e =>
        obtain ⟨fault, p, rfl⟩ := filling_refused ht hnull (.inl rfl) hf
        obtain ⟨result, hresult⟩ := failed_setupFailure (w := w) fault p g
        simp [hresult, hnull]
      | ok => simp [decideCheck_eq_none_iff hq, hnull]

end Compiling

/-- The contract tool answers the probe. -/
def ToolAnswers (s : Settings) (h : Host) : Prop :=
  ∃ v, optionOf spokenText (versionCommand s) s.probeTimeout (outcomeAt s h 0) = .ok (some v)

/-- The workspace of a compilation is filled. -/
def Fills (s : Settings) (source project : Text) (h : Host) : Prop :=
  ((named s.tempRoot project h).filling source Manifest.contract
    (written Path.here (outcomeAt s h 0) h.files)).1 = .ok ()

/-- How a compilation ends without a result: the directory of the workspace is no path, or the
output of a stage cannot be read. -/
inductive CompileEscapes (s : Settings) (source project : Text) (h : Host) : Prop
  | root : ToolAnswers s h → '\x00' ∈ (named s.tempRoot project h).root.text →
      CompileEscapes s source project h
  | check : ToolAnswers s h → Fills s source project h → (outcomeAt s h 1).IsUnreadable →
      CompileEscapes s source project h
  | build : ToolAnswers s h → Fills s source project h →
      ChecksOut s h (named s.tempRoot project h) → (outcomeAt s h 2).IsUnreadable →
      CompileEscapes s source project h

theorem decision_eq_none_iff {s : Settings} {h : Host} (hq : h.IsQuiet) (ht : h.files.IsTree)
    (source project : Text) :
    decision s source project h = none ↔ CompileEscapes s source project h := by
  have hescapes : CompileEscapes s source project h ↔
      ToolAnswers s h ∧ ('\x00' ∈ (named s.tempRoot project h).root.text ∨
        (Fills s source project h ∧ ((outcomeAt s h 1).IsUnreadable ∨
          (ChecksOut s h (named s.tempRoot project h) ∧ (outcomeAt s h 2).IsUnreadable)))) := by
    constructor
    · intro he
      cases he with
      | root ha hnull => exact ⟨ha, .inl hnull⟩
      | check ha hf hout => exact ⟨ha, .inr ⟨hf, .inl hout⟩⟩
      | build ha hf hc hout => exact ⟨ha, .inr ⟨hf, .inr ⟨hc, hout⟩⟩⟩
    · rintro ⟨ha, hnull | ⟨hf, hout | ⟨hc, hout⟩⟩⟩
      · exact .root ha hnull
      · exact .check ha hf hout
      · exact .build ha hf hc hout
  rw [hescapes]
  unfold decision ToolAnswers
  obtain ⟨o, ho⟩ := optionOf_ok (outcomeAt_quiet (s := s) hq 0) spokenText (versionCommand s)
    s.probeTimeout
  rw [ho]
  cases o with
  | none => simp
  | some v =>
    rw [decideWorkspace_eq_none_iff hq (isTree_written ht _ _)]
    simp [Fills]

/-! ## Checks of the syntax without a result -/

theorem not_unmeasured {α : Type} {h : Host} (ht : h.HasRealTimes) {r : Except Failure α} :
    ¬ Unmeasured h r := by
  rintro ⟨start, hs, finish, hf, e, hd, -⟩
  obtain ⟨x, hx⟩ := Timestamp.secondsTo_ok (ht start hs) (ht finish hf)
  rw [hx] at hd
  cases hd

/-- The compiler answers its probe. -/
def CompilerAnswers (s : Settings) (h : Host) : Prop :=
  ∃ out, answerOf (compilerVersionCommand s) s.probeTimeout (outcomeAt s h 0) = .ok out ∧
    out.exitCode = 0

/-- The workspace of a check is filled. -/
def CheckFills (s : Settings) (source : Text) (h : Host) : Prop :=
  ((named s.tempRoot "validator" h).filling source Manifest.validator
    (written Path.here (outcomeAt s h 0) h.files)).1 = .ok ()

/-- How a check of the syntax ends without a result. -/
inductive CheckEscapes (s : Settings) (source : Text) (h : Host) : Prop
  | root : CompilerAnswers s h → '\x00' ∈ (named s.tempRoot "validator" h).root.text →
      CheckEscapes s source h
  | output : CompilerAnswers s h → CheckFills s source h → (outcomeAt s h 1).IsUnreadable →
      CheckEscapes s source h

section Checking

variable {s : Settings} {h h' : Host}

/-- A probe that ends with an answer tells whether the compiler answers. -/
theorem hasCompiler_ends :
    ∃ r h₁, (hasCompiler s).on h = (r, h₁) ∧
      Used h 1 (written Path.here (outcomeAt s h 0) h.files) h₁ ∧
      (∀ usable, r = .ok usable → (usable = true ↔ CompilerAnswers s h)) ∧
      (h.IsQuiet → h.HasRealTimes → ∃ usable, r = .ok usable) := by
  have hu₀ : Used h 0 h.files h := ⟨rfl, rfl, List.Subset.refl _⟩
  obtain ⟨r, h₁, hrun, hu, hanswer⟩ := command_used (s := s) hu₀ (c := compilerVersionCommand s)
    rfl s.probeTimeout
  unfold CompilerAnswers
  cases r with
  | ok out =>
    rw [← hanswer.resolve_right not_unmeasured_ok]
    refine ⟨_, h₁, by rw [hasCompiler, on_bind_ok (on_tryCommand_of_ok hrun), on_pure], hu, ?_,
      fun _ _ => ⟨_, rfl⟩⟩
    rintro _ ⟨⟩
    rw [beq_iff_eq]
    constructor
    · intro hcode
      exact ⟨out.toCommandOutput, rfl, hcode⟩
    · rintro ⟨out', ho, hcode⟩
      cases ho
      exact hcode
  | error e =>
    cases he : e.isSystemError with
    | true =>
      have hanswer : Except.error e = answerOf (compilerVersionCommand s) s.probeTimeout
          (outcomeAt s h 0) := by
        rcases hanswer with hanswer | ⟨_, _, _, _, _, _, hu⟩
        · exact hanswer
        · cases hu
          cases he
      have htried := on_tryCommand_of_systemError hrun he
      refine ⟨_, h₁, by rw [hasCompiler, on_bind_ok htried, on_pure], hu, ?_,
        fun _ _ => ⟨_, rfl⟩⟩
      rintro _ ⟨⟩
      rw [← hanswer]
      refine iff_of_false Bool.false_ne_true ?_
      rintro ⟨out', ho, -⟩
      cases ho
    | false =>
      refine ⟨_, h₁, by rw [hasCompiler, on_bind_error (on_tryCommand_of_error hrun he)], hu, ?_,
        fun hq hr => ?_⟩
      · rintro _ ⟨⟩
      · -- on a quiet host every failure of a command is one of the system
        have hanswer := hanswer.resolve_right (not_unmeasured hr)
        rw [isSystemError_of_answerOf (outcomeAt_quiet hq 0) hanswer.symm] at he
        cases he

theorem hasCompiler_used (hq : h.IsQuiet) (hr : h.HasRealTimes) :
    ∃ usable h₁, (hasCompiler s).on h = (.ok usable, h₁) ∧
      Used h 1 (written Path.here (outcomeAt s h 0) h.files) h₁ ∧
      (usable = true ↔ CompilerAnswers s h) := by
  obtain ⟨r, h₁, hprobe, hu, hanswers, hreturns⟩ := hasCompiler_ends (s := s) (h := h)
  obtain ⟨usable, rfl⟩ := hreturns hq hr
  exact ⟨usable, h₁, hprobe, hu, hanswers usable rfl⟩

/-- The end of a check returns a verdict unless the output cannot be read, or the failure is no
matter of the build. -/
theorem checkEnd_returns_iff (r : Except Failure TimedOutput) (h : Host) :
    (∃ check, ((checkEnd r).on h).1 = .ok check) ↔
      match r with
      | .ok out => ¬ HasOverlong (Text.lines out.stderr)
      | .error e => failed e ≠ none := by
  match r with
  | .ok out =>
    have hrefuses := StageReport.ofOutput_refuses_iff "cargo check" out.toCommandOutput
    obtain ⟨h', -, hverdict⟩ := on_verdict out h
    show (∃ check, ((verdict out).on h).1 = .ok check) ↔ ¬ HasOverlong (Text.lines out.stderr)
    rw [hverdict, ← hrefuses]
    cases StageReport.ofOutput "cargo check" out.toCommandOutput <;> simp
  | .error e =>
    have henvironment : ∀ e', (∀ o, e' ≠ .overrun o) →
        ((∃ check, ((checkEnd (.error e')).on h).1 = .ok check) ↔ failed e' ≠ none) := by
      intro e' he'
      have hends : checkEnd (.error e') =
          if isEnvironmental e' then pure ⟨false, [.error e'.message]⟩ else throw e' := by
        cases e' with
        | overrun o => exact absurd rfl (he' o)
        | _ => rfl
      have hfailed : failed e' = if isEnvironmental e' then
          some (.failure (.ofError (.error e'.message) .environment)) else none := by
        cases e' with
        | overrun o => exact absurd rfl (he' o)
        | _ => rfl
      rw [hends, hfailed]
      cases isEnvironmental e' with
      | true => simp [on_pure]
      | false => simp [on_throw]
    by_cases ho : ∃ o, e = .overrun o
    · obtain ⟨o, rfl⟩ := ho
      exact ⟨fun _ => by simp [failed], fun _ => ⟨_, rfl⟩⟩
    · exact henvironment e fun o h => ho ⟨o, h⟩

/-- The compiler runs in the workspace of a check; its outcome decides whether there is a
verdict. -/
theorem checkEnd_command_iff {n : Nat} {f : Files} (hq : h.IsQuiet) (hr : h.HasRealTimes)
    (hu : Used h n f h') {c : Command} (hc : c.program = s.cargo) (budget : Binary64)
    (h₁ : Host) :
    (∃ check, ((checkEnd ((Run.command c budget).on h').1).on h₁).1 = .ok check) ↔
      ¬ (outcomeAt s h n).IsUnreadable := by
  obtain ⟨r, h₂, hrun, -, hanswer⟩ := command_used hu hc budget
  have hanswer := hanswer.resolve_right (not_unmeasured hr)
  rw [hrun, checkEnd_returns_iff]
  cases r with
  | error e =>
    obtain ⟨result, hresult⟩ :=
      failed_of_isSystemError (isSystemError_of_answerOf (outcomeAt_quiet hq n) hanswer.symm)
    simp only [hresult, ne_eq, reduceCtorEq, not_false_eq_true, true_iff]
    rintro ⟨child, code, stdout, stderr, ho, hending, -⟩
    simp only [ho, answerOf, hending] at hanswer
    cases hanswer
  | ok out =>
    rw [isUnreadable_iff hanswer.symm]

theorem checkSyntax_returns_iff (hq : h.IsQuiet) (hr : h.HasRealTimes) (ht : h.files.IsTree)
    (source : Text) :
    (∃ check, ((checkSyntax s source).on h).1 = .ok check) ↔ ¬ CheckEscapes s source h := by
  obtain ⟨usable, h₁, hprobe, hu, hanswers⟩ := hasCompiler_used (s := s) hq hr
  have hnamed := named_after_hasCompiler (s := s) s.tempRoot "validator" h
  rw [hprobe] at hnamed
  rw [checkSyntax_eq, guarded, on_bind_ok hprobe]
  cases usable with
  -- without a compiler the verdict is given at once, and nothing can escape
  | false =>
    refine ⟨fun _ hescapes => ?_, fun _ => ⟨_, rfl⟩⟩
    have hanswers : CompilerAnswers s h := by cases hescapes <;> assumption
    simp_all
  | true =>
    have hanswers := hanswers.1 rfl
    have hescapes : CheckEscapes s source h ↔ '\x00' ∈ (named s.tempRoot "validator" h).root.text ∨
        (CheckFills s source h ∧ (outcomeAt s h 1).IsUnreadable) := by
      constructor
      · rintro (⟨-, hnull⟩ | ⟨-, hf, hout⟩)
        · exact .inl hnull
        · exact .inr ⟨hf, hout⟩
      · rintro (hnull | ⟨hf, hout⟩)
        · exact .root hanswers hnull
        · exact .output hanswers hf hout
    have ht₁ : h₁.files.IsTree := by
      rw [hu.files]
      exact isTree_written ht _ _
    rw [hescapes, if_pos rfl, on_bind_ok (on_attempt h₁ _), CheckFills, ← hnamed, ← hu.files]
    cases hf : (named s.tempRoot "validator" h₁).filling source Manifest.validator h₁.files with
    | mk r g =>
      cases r with
      | error e =>
        -- no compiler was run: the failure has a verdict unless it is that of a null character
        rw [within_answer_of_error _ hf, checkEnd_returns_iff]
        by_cases hnull : '\x00' ∈ (named s.tempRoot "validator" h₁).root.text
        · rw [filling_null hnull] at hf
          cases hf
          simp only [failed_setupFailure_null hnull, ne_eq, not_true_eq_false, hnull, true_or]
        · obtain ⟨fault, p, rfl⟩ := filling_refused ht₁ hnull (.inr rfl) hf
          obtain ⟨result, hresult⟩ := failed_setupFailure
            (w := named s.tempRoot "validator" h₁) fault p g
          simp only [hresult, ne_eq, reduceCtorEq, not_false_eq_true, hnull, false_and, or_self]
      | ok =>
        have hnull : '\x00' ∉ (named s.tempRoot "validator" h₁).root.text := by
          intro hnull
          rw [filling_null hnull] at hf
          cases hf
        obtain ⟨h₂, hn, hanswer⟩ := within_answer_of_ok ht₁
          (fun w => Run.command (syntaxCommand s w) s.syntaxTimeout)
          (fun p => preserves_directoryAt (p := p) s _ _ _) hf
        have hu₂ : Used h 1 g h₂ := hu.filled hn
        rw [hanswer, checkEnd_command_iff hq hr hu₂ rfl]
        simp only [hnull, true_and, false_or]

end Checking

/-! ## Both entry points -/

theorem compile_returns_iff {s : Settings} {h : Host} (hq : h.IsQuiet) (hr : h.HasRealTimes)
    (ht : h.files.IsTree) (source project : Text) :
    (∃ result, ((compile s source project).on h).1 = .ok result) ↔
      ¬ CompileEscapes s source project h := by
  have hagrees : ((compile s source project).on h).1.toOption = decision s source project h :=
    (compile_agrees ht).resolve_right (not_unmeasured hr)
  rw [← decision_eq_none_iff hq ht, ← hagrees]
  cases ((compile s source project).on h).1 with
  | error e => simp [Except.toOption]
  | ok result => simp [Except.toOption]

/-- On a host where nothing is cancelled or interrupted, a compilation and a check of the syntax end
with a result in every case but the ones that are named. -/
theorem returns_iff_not_escapes {s : Settings} {h : Host} (hq : h.IsQuiet) (hr : h.HasRealTimes)
    (ht : h.files.IsTree) (source project : Text) :
    ((∃ result, ((compile s source project).on h).1 = .ok result) ↔
        ¬ CompileEscapes s source project h) ∧
      ((∃ check, ((checkSyntax s source).on h).1 = .ok check) ↔ ¬ CheckEscapes s source h) :=
  ⟨compile_returns_iff hq hr ht source project, checkSyntax_returns_iff hq hr ht source⟩

/-- The line of a location whose line number has so many digits. -/
def longArrow (digits : Nat) : Text :=
  " --> f:" ++ (List.replicate digits '1' ++ ":1")

/-- The line has no other characters, however many digits it has. -/
theorem longArrow_subset (digits : Nat) : longArrow digits ⊆ (" --> f:1" : Text) := by
  refine List.append_subset.2 ⟨by decide, List.append_subset.2 ⟨?_, by decide⟩⟩
  intro c hc
  rw [List.eq_of_mem_replicate hc]
  decide

theorem arrow_longArrow {digits : Nat} (hdigits : digits ≠ 0) :
    Arrow.read? (longArrow digits) = some ⟨"f", List.replicate digits '1', "1"⟩ := by
  have hones : ∀ c ∈ List.replicate digits '1', Text.isDigit c = true := by
    intro c hc
    rw [List.eq_of_mem_replicate hc]
    decide
  exact Arrow.read?_of_parts "f" (List.replicate digits '1') "1" (by decide)
    (by simpa using hdigits) (by decide) hones (by decide)

/-- An error at that location. -/
def longLocation (digits : Nat) : Text :=
  "error: x" ++ '\n' :: (longArrow digits ++ '\n' :: [])

theorem lines_longLocation (digits : Nat) :
    Text.lines (longLocation digits) = [("error: x" : Text), longArrow digits] := by
  have hmessage : ∀ c ∈ ("error: x" : Text), Text.isSeparator c = false := by decide
  have hfirst := Text.lines_append_newline hmessage (longArrow digits ++ '\n' :: [])
  have hletters : ∀ c ∈ (" --> f:1" : Text), Text.isSeparator c = false := by decide
  have hsecond := Text.lines_append_newline (fun c hc => hletters c (longArrow_subset digits hc)) []
  exact hfirst.trans (congrArg _ hsecond)

theorem hasOverlong_longLocation {digits : Nat} (hdigits : Text.digitLimit < digits) :
    HasOverlong (Text.lines (longLocation digits)) := by
  have hheader : Header.read? (longArrow digits) = none := rfl
  have hstarts : StartsOverlong [longArrow digits] := by
    refine ⟨[], longArrow digits, [], _, rfl, by simp, hheader,
      arrow_longArrow (Nat.ne_zero_of_lt hdigits), .inl ?_⟩
    show Text.digitLimit < (List.replicate digits '1').length
    rwa [List.length_replicate]
  rw [lines_longLocation]
  exact ⟨[], "error: x", [longArrow digits], rfl, by decide, hstarts⟩

/-- The error can be written, but not be read. -/
theorem isUnreadable_longLocation {digits : Nat} (hdigits : Text.digitLimit < digits) (code : Int)
    (stdout : Bytes) :
    (Spawn.started
      { ending := .exited code stdout (Text.encode (longLocation digits)) }).IsUnreadable := by
  have hascii : ∀ c ∈ longLocation digits, c.toNat < 0x80 := by
    have hletters : ∀ c ∈ (" --> f:1" : Text), c.toNat < 0x80 := by decide
    have harrow : ∀ c ∈ longArrow digits, c.toNat < 0x80 :=
      fun c hc => hletters c (longArrow_subset digits hc)
    refine List.forall_mem_append.2 ⟨by decide, List.forall_mem_cons.2 ⟨by decide, ?_⟩⟩
    exact List.forall_mem_append.2 ⟨harrow, by decide⟩
  refine ⟨_, code, stdout, _, rfl, rfl, ?_⟩
  rw [Text.decodeLossy_encode_of_ascii hascii]
  exact hasOverlong_longLocation hdigits

/-- A host on which the probe succeeds and the first stage reports that error. -/
def longLocationHost (digits : Nat) : Host :=
  { spawns :=
      [.started { ending := .exited 0 (Text.encode "cargo stylus 0.5.3\n") [] },
        .started { ending := .exited 1 [] (Text.encode (longLocation digits)) }] }

theorem eq_ok_of_isOk {r : Except Failure Unit} (h : r.toOption.isSome = true) : r = .ok () := by
  cases r with
  | ok => rfl
  | error e => cases h

/-- Neither a compilation nor a check of the syntax has a result there. -/
theorem returns_iff_not_escapes_longLocation :
    (longLocationHost 4301).IsQuiet ∧ (longLocationHost 4301).HasRealTimes ∧
      (longLocationHost 4301).files.IsTree ∧
      (¬ ∃ result, ((compile { tempRoot := Path.ofText "builds" } "fn main();" "contract").on
        (longLocationHost 4301)).1 = .ok result) ∧
      ¬ ∃ check, ((checkSyntax { tempRoot := Path.ofText "builds" } "fn main();").on
        (longLocationHost 4301)).1 = .ok check := by
  have hquiet : (longLocationHost 4301).IsQuiet := by
    intro o ho
    rcases List.mem_cons.1 ho with rfl | ho
    · exact ⟨by simp, fun child hc => by cases hc; simp⟩
    · obtain rfl := List.mem_singleton.1 ho
      exact ⟨by simp, fun child hc => by cases hc; simp⟩
  have htimes : (longLocationHost 4301).HasRealTimes := by
    intro t ht
    obtain rfl := List.mem_singleton.1 ht
    exact ⟨by decide, by decide, by decide, by decide, by decide, by decide⟩
  have htree : (longLocationHost 4301).files.IsTree := isTree_of_entries (by decide)
  obtain ⟨hcompile, hcheck⟩ := returns_iff_not_escapes
    (s := { tempRoot := Path.ofText "builds" }) hquiet htimes htree "fn main();" "contract"
  have hout : (outcomeAt { tempRoot := Path.ofText "builds" } (longLocationHost 4301)
      1).IsUnreadable :=
    isUnreadable_longLocation (by decide) 1 []
  have htool : ToolAnswers { tempRoot := Path.ofText "builds" } (longLocationHost 4301) :=
    ⟨"cargo stylus 0.5.3", rfl⟩
  have hcompiler : CompilerAnswers { tempRoot := Path.ofText "builds" } (longLocationHost 4301) :=
    ⟨_, rfl, rfl⟩
  have hfills : Fills { tempRoot := Path.ofText "builds" } "fn main();" "contract"
      (longLocationHost 4301) :=
    eq_ok_of_isOk (by decide +kernel)
  have hcheckFills : CheckFills { tempRoot := Path.ofText "builds" } "fn main();"
      (longLocationHost 4301) :=
    eq_ok_of_isOk (by decide +kernel)
  exact ⟨hquiet, htimes, htree, fun hr => hcompile.1 hr (.check htool hfills hout),
    fun hr => hcheck.1 hr (.output hcompiler hcheckFills hout)⟩

end Toolchain

end ContractBuild
