import ContractBuild.Build.Toolchain
import ContractBuild.Proofs.Build.Workspace

/-!
# The toolchain, step by step

Both entry points have one shape: `Toolchain.guarded` work in a workspace, with an end that turns
every failure that belongs to the result into one (`Toolchain.compile_eq`,
`Toolchain.checkSyntax_eq`). What the commands of the stages keep of the files, the stages keep
(`Toolchain.preserves_stages`).
-/

set_option autoImplicit false

namespace ContractBuild.Toolchain

open Files Run Workspace

/-! ## What the stages keep -/

section Stages

variable {T : Command → Files → Child → Prop} {P : Files → Prop} {s : Settings}

theorem preserves_interpret (stage : Text) (out : TimedOutput) :
    Preserves T P (interpret stage out) :=
  preserves_answer _ _

theorem preserves_version
    (hc : Preserves T P (Run.command (versionCommand s) s.probeTimeout)) :
    Preserves T P (version s) := by
  refine (preserves_tryCommand hc).bind fun r => ?_
  cases r with
  | ok out => exact preserves_pure _
  | error e => exact (preserves_log _ _).bind fun _ => preserves_pure _

theorem preserves_isAvailable
    (hc : Preserves T P (Run.command (versionCommand s) s.probeTimeout)) :
    Preserves T P (isAvailable s) :=
  (preserves_version hc).bind fun _ => preserves_pure _

theorem preserves_hasCompiler
    (hc : Preserves T P (Run.command (compilerVersionCommand s) s.probeTimeout)) :
    Preserves T P (hasCompiler s) := by
  refine (preserves_tryCommand hc).bind fun r => ?_
  cases r <;> exact preserves_pure _

/-- The probe of the tool draws no name: the workspace named after it is the one named before. -/
theorem named_after_version (parent : Path) (project : Text) (h : Host) :
    named parent project ((version s).on h).2 = named parent project h := by
  have hversion : Preserves (fun _ _ _ => True) (fun _ => True) (version s) :=
    preserves_version (preserves_command s.probeTimeout fun _ _ _ _ => trivial)
  exact named_of_continues (hversion.continues h) parent project

/-- The probe of the compiler draws no name either. -/
theorem named_after_hasCompiler (parent : Path) (project : Text) (h : Host) :
    named parent project ((hasCompiler s).on h).2 = named parent project h := by
  have hcompiler : Preserves (fun _ _ _ => True) (fun _ => True) (hasCompiler s) :=
    preserves_hasCompiler (preserves_command s.probeTimeout fun _ _ _ _ => trivial)
  exact named_of_continues (hcompiler.continues h) parent project

variable {w : Workspace}

theorem preserves_artifact : Preserves T P (artifact w) := by
  refine (preserves_ask _).bind fun isFile => ?_
  split
  · exact preserves_ask _
  · exact preserves_pure _

theorem preserves_abi (hc : Preserves T P (Run.command (abiCommand s w) s.abiTimeout)) :
    Preserves T P (abi s w) := by
  refine (preserves_tryCommand hc).bind fun r => ?_
  cases r with
  | error e => exact (preserves_log _ _).bind fun _ => preserves_pure _
  | ok out =>
    simp only
    split
    · exact (preserves_log _ _).bind fun _ => preserves_pure _
    · exact preserves_pure _

theorem preserves_gas (hc : Preserves T P (Run.command (gasCommand s w) s.gasTimeout)) :
    Preserves T P (gas s w) := by
  refine (preserves_tryCommand hc).bind fun r => ?_
  cases r with
  | error e => exact (preserves_log _ _).bind fun _ => preserves_pure _
  | ok out => exact preserves_pure _

-- All commands that run in the workspace keep the property.
variable (hc : ∀ arguments budget, Preserves T P (Run.command (command s (some w.root) arguments)
  budget))

include hc

theorem preserves_finish (warnings : List Diagnostic) :
    Preserves T P (finish s w warnings) := by
  refine preserves_artifact.bind fun bytes => ?_
  cases bytes with
  | nil =>
    exact (preserves_log _ _).bind fun _ => (preserves_ask _).bind fun _ => preserves_pure _
  | cons b bytes =>
    exact (preserves_abi (hc _ _)).bind fun _ => (preserves_gas (hc _ _)).bind fun _ =>
      (preserves_log _ _).bind fun _ => preserves_pure _

theorem preserves_build (warnings : List Diagnostic) : Preserves T P (build s w warnings) := by
  refine (hc _ _).bind fun out => (preserves_interpret _ _).bind fun report => ?_
  simp only
  split
  · exact (preserves_log _ _).bind fun _ => preserves_pure _
  · exact preserves_finish hc _

theorem preserves_stages : Preserves T P (stages s w) := by
  refine (hc _ _).bind fun out => (preserves_interpret _ _).bind fun report => ?_
  simp only
  split
  · exact (preserves_log _ _).bind fun _ => preserves_pure _
  · exact preserves_build hc _

end Stages

/-! ## The shape of both entry points -/

section Guarded

variable {α β : Type}

/-- Work that is done only if a probe succeeds; what comes after it is noted only. -/
def guarded (probe : Run Bool) (work : Run α) (post : Except Failure α → Run β)
    (other : Run β) : Run β := do
  if ← probe then
    post (← attempt work)
  else other

variable {T : Command → Files → Child → Prop} {probe : Run Bool} {work : Run α}
  {post : Except Failure α → Run β} {other : Run β} {h : Host}

/-- The files after guarded work are those after the work, or those from before. -/
theorem guarded_files (hprobe : Preserves T (· = h.files) probe)
    (hfollows : ∀ h₁ : Host, h₁.Follows (work.on h₁).2)
    (hpost : ∀ r (h₁ : Host), h₁.Noted ((post r).on h₁).2)
    (hother : ∀ h₁ : Host, h₁.Noted (other.on h₁).2)
    (hall : h.AllStarted T ((guarded probe work post other).on h).2) :
    ((probe.on h).1 = .ok true ∧ ∃ h₁, h.Continues h₁ ∧ h₁.files = h.files ∧
        h₁.AllStarted T (work.on h₁).2 ∧
        ((guarded probe work post other).on h).2.files = (work.on h₁).2.files) ∨
      ((probe.on h).1 ≠ .ok true ∧
        ((guarded probe work post other).on h).2.files = h.files) := by
  have hcontinues := hprobe.continues h
  have hfiles := hprobe.files h
  unfold guarded at hall ⊢
  cases hp : probe.on h with
  | mk r h₁ =>
    rw [hp] at hcontinues hfiles
    cases r with
    | error e =>
      rw [on_bind_error hp] at hall ⊢
      exact .inr ⟨by simp, hfiles hall rfl⟩
    | ok usable =>
      rw [on_bind_ok hp] at hall ⊢
      cases usable with
      | false =>
        rw [if_neg (by simp)] at hall ⊢
        have hn := hother h₁
        obtain ⟨hall, -⟩ := hall.split hcontinues.follows hn.follows
        exact .inr ⟨by simp, hn.files.trans (hfiles hall rfl)⟩
      | true =>
        rw [if_pos rfl, on_bind_ok (on_attempt h₁ work)] at hall ⊢
        have hn := hpost (work.on h₁).1 (work.on h₁).2
        obtain ⟨hall, -⟩ := hall.split (hcontinues.follows.trans (hfollows h₁)) hn.follows
        obtain ⟨hall, hall₁⟩ := hall.split hcontinues.follows (hfollows h₁)
        exact .inl ⟨rfl, h₁, hcontinues, hfiles hall rfl, hall₁, hn.files⟩

end Guarded

/-- The end of a compilation: the result of the stages, or one that reports why there is none. -/
def compileEnd : Except Failure BuildResult → Run BuildResult
  | .ok result => return result
  | .error (.overrun e) => return .failure (.ofError (timeoutDiagnostic e) .timeout)
  | .error e =>
    if isEnvironmental e then do
      Run.log .error ("Build environment error: " ++ e.message)
      return .failure (.ofError (.error e.message) .environment)
    else throw e

/-- The end of a compilation without the contract tool. -/
def toolMissing : Run BuildResult := do
  Run.log .error "cargo-stylus is not installed"
  return .failure (.ofError missingDiagnostic .toolchainUnavailable)

/-- The end of a check of the syntax. -/
def checkEnd : Except Failure TimedOutput → Run SyntaxCheck
  | .ok out => verdict out
  | .error (.overrun e) => return ⟨false, [timeoutDiagnostic e]⟩
  | .error e => if isEnvironmental e then return ⟨false, [.error e.message]⟩ else throw e

theorem compile_eq (s : Settings) (source project : Text) :
    compile s source project =
      guarded (isAvailable s) (within s.tempRoot project source Manifest.contract (stages s))
        compileEnd toolMissing := by
  unfold compile guarded
  refine bind_congr fun usable => ?_
  cases usable with
  | false => rfl
  | true =>
    refine bind_congr fun r => ?_
    cases r with
    | ok result => rfl
    | error e => cases e <;> rfl

/-- A compilation, once the tool was asked for its version. -/
theorem on_compile {s : Settings} {source project : Text} {h h₁ : Host}
    {r : Except Failure (Option Text)} (hversion : (version s).on h = (r, h₁)) :
    (compile s source project).on h =
      match r with
      | .error e => (.error e, h₁)
      | .ok none => toolMissing.on h₁
      | .ok (some _) =>
        let work := within s.tempRoot project source Manifest.contract (stages s)
        (compileEnd (work.on h₁).1).on (work.on h₁).2 := by
  rw [compile_eq, guarded]
  match r with
  | .error e => exact on_bind_error (on_bind_error hversion _) _
  | .ok none =>
    have havailable : (isAvailable s).on h = (.ok false, h₁) := on_bind_ok hversion _
    rw [on_bind_ok havailable, if_neg Bool.false_ne_true]
  | .ok (some v) =>
    have havailable : (isAvailable s).on h = (.ok true, h₁) := on_bind_ok hversion _
    rw [on_bind_ok havailable, if_pos rfl, on_bind_ok (on_attempt h₁ _)]

theorem checkSyntax_eq (s : Settings) (source : Text) :
    checkSyntax s source =
      guarded (hasCompiler s)
        (within s.tempRoot "validator" source Manifest.validator fun w =>
          Run.command (syntaxCommand s w) s.syntaxTimeout)
        checkEnd (pure ⟨false, [compilerMissing]⟩) := by
  unfold checkSyntax guarded
  refine bind_congr fun usable => ?_
  cases usable with
  | false => rfl
  | true =>
    refine bind_congr fun r => ?_
    cases r with
    | ok result => rfl
    | error e => cases e <;> rfl

theorem noted_toolMissing (h : Host) : h.Noted (toolMissing.on h).2 :=
  noted_log_pure _ _ _ h

theorem noted_compileEnd (r : Except Failure BuildResult) (h : Host) :
    h.Noted ((compileEnd r).on h).2 := by
  unfold compileEnd
  split
  · exact .refl h
  · exact .refl h
  · rename_i e _
    split
    · exact noted_log_pure _ _ _ h
    · exact .refl h

/-- The verdict on the output of the compiler has the errors of its report. -/
theorem on_verdict (out : TimedOutput) (h : Host) :
    ∃ h', h.Noted h' ∧ (verdict out).on h =
      (match StageReport.ofOutput "cargo check" out.toCommandOutput with
        | .error e => .error (.digits e)
        | .ok report => .ok ⟨report.errors.isEmpty, report.errors⟩, h') := by
  have hanswer := on_answer h .digits (StageReport.ofOutput "cargo check" out.toCommandOutput)
  unfold verdict interpret
  cases hr : StageReport.ofOutput "cargo check" out.toCommandOutput with
  | error e =>
    rw [hr] at hanswer
    exact ⟨h, .refl h, by rw [on_bind_error hanswer]⟩
  | ok report =>
    rw [hr] at hanswer
    rw [on_bind_ok hanswer]
    match report with
    | ⟨[], others⟩ => exact ⟨h, .refl h, rfl⟩
    | ⟨e :: errors, others⟩ =>
      obtain ⟨h', hlog, hn⟩ := on_log_pure .info
        ("Syntax check found " ++ countText (e :: errors)) (SyntaxCheck.mk false (e :: errors)) h
      exact ⟨h', hn, hlog⟩

theorem noted_verdict (out : TimedOutput) (h : Host) : h.Noted ((verdict out).on h).2 := by
  obtain ⟨h', hn, hverdict⟩ := on_verdict out h
  rw [hverdict]
  exact hn

theorem noted_checkEnd (r : Except Failure TimedOutput) (h : Host) :
    h.Noted ((checkEnd r).on h).2 := by
  unfold checkEnd
  split
  · exact noted_verdict _ h
  · exact .refl h
  · split <;> exact .refl h

theorem noted_compilerMissing (h : Host) :
    h.Noted ((pure ⟨false, [compilerMissing]⟩ : Run SyntaxCheck).on h).2 :=
  .refl h

end ContractBuild.Toolchain
