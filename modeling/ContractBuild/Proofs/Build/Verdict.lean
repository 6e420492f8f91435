import ContractBuild.Proofs.Build.Schedule
import ContractBuild.Proofs.Build.Stage

/-!
# The verdict of a syntax check

A check of the syntax that returns has found the source valid only if all went well: the compiler
answered its probe, the workspace was filled, and the compiler ended in time, with zero and without
a word of an error. Each other way to return is a verdict against the source, also those on which
the compiler was never run.

Main statement: `Toolchain.isVerdict_of_checkSyntax`.
-/

set_option autoImplicit false

namespace ContractBuild.Toolchain

open Files Run Workspace

/-! ## Outputs -/

/-- The output of a process that ended by itself is the answer of its command. -/
theorem answerOf_eq_ok {o : Spawn} {out : CommandOutput} (h : Says o out) (c : Command)
    (budget : Binary64) : answerOf c budget o = .ok out := by
  obtain ⟨child, code, stdout, stderr, rfl, hending, rfl⟩ := h
  simp only [answerOf, hending]

/-- An output in which nothing speaks of an error: it ends with zero, no line of either stream has
the marker of a known failure, and no line of the error stream is the header of an error. -/
structure IsClean (out : CommandOutput) : Prop where
  exitCode : out.exitCode = 0
  unmarked : ∀ line ∈ Text.lines out.stdout ++ Text.lines out.stderr,
    KnownFailure.marks line = false
  noError : ∀ line ∈ Text.lines out.stderr, ∀ header, Header.read? line = some header →
    header.severity ≠ .error

/-- A report has no errors exactly if the output is clean. -/
theorem errors_eq_nil_iff_isClean {stage : Text} {out : CommandOutput} {report : StageReport}
    (h : StageReport.ofOutput stage out = .ok report) : report.errors = [] ↔ IsClean out := by
  cases hread : Diagnostic.parse out.stderr with
  | error e =>
    rw [StageReport.ofOutput, StageReport.diagnostics, hread] at h
    cases h
  | ok ds =>
    rw [StageReport.ofOutput_eq stage hread] at h
    cases h
    have hrecords := StageReport.errorRecords_eq_nil_iff hread
    rw [StageReport.errorRecords] at hrecords
    rw [StageReport.errors_eq_nil_iff, hrecords]
    constructor
    · rintro ⟨hcode, hunmarked, hnone⟩
      exact ⟨hcode, hunmarked, hnone⟩
    · rintro ⟨hcode, hunmarked, hnone⟩
      exact ⟨hcode, hunmarked, hnone⟩

/-! ## Ends of a check -/

section Ends

variable {h : Host} {check : SyntaxCheck}

/-- The verdict on an output that can be read has the errors of its report. -/
theorem verdict_of_ok {out : TimedOutput} (hr : ((verdict out).on h).1 = .ok check) :
    ∃ report, StageReport.ofOutput "cargo check" out.toCommandOutput = .ok report ∧
      check.errors = report.errors ∧ (check.valid = true ↔ report.errors = []) := by
  obtain ⟨h', -, hverdict⟩ := on_verdict out h
  rw [hverdict] at hr
  cases hreport : StageReport.ofOutput "cargo check" out.toCommandOutput with
  | error e =>
    rw [hreport] at hr
    cases hr
  | ok report =>
    rw [hreport] at hr
    cases hr
    exact ⟨report, rfl, rfl, List.isEmpty_iff⟩

/-- A failure of the work is a verdict against the source, if it is one at all. -/
theorem not_valid_of_error {e : Failure} (hr : ((checkEnd (.error e)).on h).1 = .ok check) :
    check.valid = false := by
  unfold checkEnd at hr
  split at hr
  · rename_i heq
    cases heq
  · cases hr
    rfl
  · split at hr
    · cases hr
      rfl
    · cases hr

/-- A check that ends without an output does not end for want of a time. -/
theorem not_unmeasured_of_checkEnd {α : Type} {h' : Host} {e : Failure}
    (hr : ((checkEnd (.error e)).on h).1 = .ok check) :
    ¬ Unmeasured h' (.error e : Except Failure α) := by
  rintro ⟨_, _, _, _, _, _, heq⟩
  cases heq
  cases hr

/-- The verdict after the compiler was run is that on its output; without one it is against the
source. -/
theorem checkEnd_of_command {s : Settings} {h' h₁ : Host} {n : Nat} {f : Files}
    (hu : Used h n f h') {c : Command} (hc : c.program = s.cargo) (budget : Binary64)
    (hr : ((checkEnd ((Run.command c budget).on h').1).on h₁).1 = .ok check) :
    (check.valid = true ↔ ∃ out, Says (outcomeAt s h n) out ∧ IsClean out) ∧
      ∀ out, Says (outcomeAt s h n) out →
        ∃ report, StageReport.ofOutput "cargo check" out = .ok report ∧
          check.errors = report.errors := by
  obtain ⟨r, h₂, hrun, -, hanswer⟩ := command_used hu hc budget
  rw [hrun] at hr
  cases r with
  | error e =>
    have hanswer := hanswer.resolve_right (not_unmeasured_of_checkEnd hr)
    have hnone : ∀ out, ¬ Says (outcomeAt s h n) out := by
      intro out hsays
      rw [answerOf_eq_ok hsays c budget] at hanswer
      cases hanswer
    refine ⟨iff_of_false ?_ ?_, fun out hsays => absurd hsays (hnone out)⟩
    · rw [not_valid_of_error hr]
      exact Bool.false_ne_true
    · rintro ⟨out, hsays, -⟩
      exact hnone out hsays
  | ok out =>
    have hanswer := hanswer.resolve_right not_unmeasured_ok
    have hsays := says_of_answerOf hanswer.symm
    -- an outcome says one output only, so the verdict is on each output that it says
    have hunique : ∀ out', Says (outcomeAt s h n) out' → out' = out.toCommandOutput := by
      intro out' hsays'
      rw [answerOf_eq_ok hsays' c budget] at hanswer
      exact (Except.ok.inj hanswer).symm
    obtain ⟨report, hreport, herrors, hvalid⟩ := verdict_of_ok hr
    rw [errors_eq_nil_iff_isClean hreport] at hvalid
    constructor
    · rw [hvalid]
      constructor
      · exact fun hclean => ⟨_, hsays, hclean⟩
      · rintro ⟨out', hsays', hclean⟩
        exact hunique out' hsays' ▸ hclean
    · intro out' hsays'
      rw [hunique out' hsays']
      exact ⟨report, hreport, herrors⟩

end Ends

/-! ## The verdict -/

/-- A check of the syntax passes: the compiler answers its probe with zero in time, the workspace is
filled, and the compiler ends in it by itself, with a clean output. -/
structure CheckPasses (s : Settings) (source : Text) (h : Host) : Prop where
  answers : CompilerAnswers s h
  fills : CheckFills s source h
  clean : ∃ out, Says (outcomeAt s h 1) out ∧ IsClean out

/-- What a check of the syntax starts: the probe alone, or the compiler once after it, in the files
of a filled workspace. -/
inductive CheckStarts (s : Settings) (source : Text) (h : Host) : List (Command × Files) → Prop
  | probe : ¬ (CompilerAnswers s h ∧ CheckFills s source h) →
      CheckStarts s source h [(compilerVersionCommand s, h.files)]
  | compiler {g : Files} : CompilerAnswers s h →
      (named s.tempRoot "validator" h).filling source Manifest.validator
        (written Path.here (outcomeAt s h 0) h.files) = (.ok (), g) →
      CheckStarts s source h
        [(compilerVersionCommand s, h.files),
          (syntaxCommand s (named s.tempRoot "validator" h), g)]

/-- The verdict of a check on `h` that leaves the host as `h'`. The source is valid exactly if the
check passes. Of a compiler that was run to its end the errors are those of the report on its
output. -/
structure IsVerdict (s : Settings) (source : Text) (h : Host) (check : SyntaxCheck) (h' : Host) :
    Prop where
  valid_iff : check.valid = true ↔ CheckPasses s source h
  errors : CompilerAnswers s h → CheckFills s source h → ∀ out, Says (outcomeAt s h 1) out →
    ∃ report, StageReport.ofOutput "cargo check" out = .ok report ∧ check.errors = report.errors
  starts : ∃ starts, h.Tries starts h' ∧ CheckStarts s source h starts

section Checking

variable {s : Settings} {source : Text} {h h' : Host} {check : SyntaxCheck}

/-- A check that never comes to the compiler is right to find against the source. -/
theorem IsVerdict.of_unreached (hnone : ¬ (CompilerAnswers s h ∧ CheckFills s source h))
    (hinvalid : check.valid = false)
    (htries : h.Tries [(compilerVersionCommand s, h.files)] h') :
    IsVerdict s source h check h' where
  valid_iff := by
    rw [hinvalid]
    exact iff_of_false Bool.false_ne_true fun hpasses => hnone ⟨hpasses.answers, hpasses.fills⟩
  errors := fun hanswers hfills => absurd ⟨hanswers, hfills⟩ hnone
  starts := ⟨_, htries, .probe hnone⟩

theorem tries_hasCompiler (s : Settings) (h : Host) :
    h.Tries [(compilerVersionCommand s, h.files)] ((hasCompiler s).on h).2 := by
  refine tries_bind (tries_tryCommand _ _ h) fun r h₁ => ?_
  cases r with
  | ok out => exact .refl h₁
  | error e => exact .refl h₁

/-- After a good probe the verdict is that of the workspace and of the compiler in it. -/
theorem isVerdict_of_within {h₁ : Host} (ht : h₁.files.IsTree) (hanswers : CompilerAnswers s h)
    (hu : Used h 1 (written Path.here (outcomeAt s h 0) h.files) h₁)
    (hnamed : named s.tempRoot "validator" h₁ = named s.tempRoot "validator" h)
    (htries : h.Tries [(compilerVersionCommand s, h.files)] h₁)
    (hr : (attempt (within s.tempRoot "validator" source Manifest.validator
      fun w => Run.command (syntaxCommand s w) s.syntaxTimeout) >>= checkEnd).on h₁ =
        (.ok check, h')) :
    IsVerdict s source h check h' := by
  rw [on_bind_ok (on_attempt h₁ _)] at hr
  obtain rfl := congrArg Prod.snd hr
  have hr := congrArg Prod.fst hr
  cases hf : (named s.tempRoot "validator" h₁).filling source Manifest.validator h₁.files with
  | mk r g =>
    have hfilling := hf
    rw [hnamed, hu.files] at hfilling
    cases r with
    | error e =>
      -- no compiler was run: whatever the failure is, it tells against the source
      rw [within_answer_of_error _ hf] at hr
      refine .of_unreached ?_ (not_valid_of_error hr)
        ((htries.still (tries_within_of_error _ hf)).noted (noted_checkEnd _ _))
      rintro ⟨-, hfills⟩
      rw [CheckFills, hfilling] at hfills
      cases hfills
    | ok =>
      obtain ⟨h₂, hn, hanswer⟩ := within_answer_of_ok ht
        (fun w => Run.command (syntaxCommand s w) s.syntaxTimeout)
        (fun p => preserves_directoryAt (p := p) s _ _ _) hf
      have hu₂ : Used h 1 g h₂ := hu.filled hn
      have hfills : CheckFills s source h := congrArg Prod.fst hfilling
      -- the answer is that of the compiler, and the removal of the workspace starts nothing
      rw [hanswer] at hr
      obtain ⟨hvalid, herrors⟩ := checkEnd_of_command hu₂ rfl s.syntaxTimeout hr
      have hcompiler : ∀ h₃, (drawn h₁ g).Noted h₃ →
          h₃.Tries [(syntaxCommand s (named s.tempRoot "validator" h₁), g)]
            ((Run.command (syntaxCommand s (named s.tempRoot "validator" h₁))
              s.syntaxTimeout).on h₃).2 := by
        intro h₃ hn₃
        have hcommand := tries_command (syntaxCommand s (named s.tempRoot "validator" h₁))
          s.syntaxTimeout h₃
        rwa [hn₃.files] at hcommand
      have hwithin := tries_within_of_ok
        (fun w => Run.command (syntaxCommand s w) s.syntaxTimeout) hf hcompiler
      rw [hnamed] at hwithin
      constructor
      · rw [hvalid]
        constructor
        · exact fun hclean => ⟨hanswers, hfills, hclean⟩
        · exact fun hpasses => hpasses.clean
      · exact fun _ _ => herrors
      · exact ⟨_, (htries.trans hwithin).noted (noted_checkEnd _ _),
          .compiler hanswers hfilling⟩

/-- A check of the syntax that returns gives the verdict. -/
theorem isVerdict_of_checkSyntax (ht : h.files.IsTree)
    (hr : (checkSyntax s source).on h = (.ok check, h')) : IsVerdict s source h check h' := by
  obtain ⟨r, h₁, hprobe, hu, hanswers, -⟩ := hasCompiler_ends (s := s) (h := h)
  have hnamed := named_after_hasCompiler (s := s) s.tempRoot "validator" h
  have htries := tries_hasCompiler s h
  rw [hprobe] at hnamed htries
  rw [checkSyntax_eq, guarded] at hr
  cases r with
  | error e =>
    rw [on_bind_error hprobe] at hr
    cases hr
  | ok usable =>
    rw [on_bind_ok hprobe] at hr
    have hanswers := hanswers usable rfl
    cases usable with
    | false =>
      -- without a compiler the verdict is given at once
      cases hr
      exact .of_unreached (fun hboth => Bool.false_ne_true (hanswers.2 hboth.1)) rfl htries
    | true =>
      have ht₁ : h₁.files.IsTree := by
        rw [hu.files]
        exact isTree_written ht _ _
      rw [if_pos rfl] at hr
      exact isVerdict_of_within ht₁ (hanswers.1 rfl) hu hnamed htries hr

end Checking

/-- A host on which the compiler answers its probe, and then ends with zero and a warning. -/
def warnedCheckHost : Host :=
  { spawns :=
      [.started { ending := .exited 0 (Text.encode "cargo 1.80.0\n") [] },
        .started { ending := .exited 0 [] (Text.encode "warning: unused variable\n") }] }

theorem isVerdict_of_checkSyntax_warned :
    ∃ check h', (checkSyntax { tempRoot := Path.ofText "builds" } "fn main();").on warnedCheckHost =
        (.ok check, h') ∧ check.valid = true ∧
      IsVerdict { tempRoot := Path.ofText "builds" } "fn main();" warnedCheckHost check h' := by
  have hvalid : ((checkSyntax { tempRoot := Path.ofText "builds" } "fn main();").on
      warnedCheckHost).1.toOption.map (·.valid) = some true := by
    decide +kernel
  cases hr : (checkSyntax { tempRoot := Path.ofText "builds" } "fn main();").on warnedCheckHost with
  | mk r h' =>
    rw [hr] at hvalid
    cases r with
    | error e => cases hvalid
    | ok check =>
      exact ⟨check, h', rfl, Option.some.inj hvalid,
        isVerdict_of_checkSyntax (isTree_of_entries (by decide)) hr⟩

end ContractBuild.Toolchain
