import ContractBuild.Proofs.Build.Decision
import ContractBuild.Proofs.Build.Stage
import Mathlib.Data.List.TakeWhile

/-!
# Errors without words

A build that fails for its diagnostics tells at least one error, but the message of an error is what
stands behind its header, and that may be blank. Known failures, errors that sum up others and the
error of a silent stage always have words; so a failure is without words only if its stage speaks of
errors in blank headers and in summaries, and of no known failure.

`StageReport.IsMute` is that condition on the output of a stage. Main statement:
`Toolchain.readable_iff_not_mute`.
-/

set_option autoImplicit false

namespace ContractBuild

open Text (strip isBlank)

/-! ## Messages that are not blank -/

/-- Stripping leaves something of a text that is not blank all through. -/
theorem Text.strip_ne_nil {t : Text} {c : Char} (hc : c ∈ t) (hblank : isBlank c = false) :
    strip t ≠ [] := by
  intro hnil
  have hback : (t.dropWhile isBlank).reverse.dropWhile isBlank = [] :=
    List.reverse_eq_nil_iff.1 hnil
  have hall : ∀ d ∈ t.dropWhile isBlank, isBlank d = true := by
    intro d hd
    exact List.dropWhile_eq_nil_iff.1 hback d (List.mem_reverse.2 hd)
  -- the character stands in front of the rest, where all are blank, or in the rest
  rw [← List.takeWhile_append_dropWhile (p := isBlank) (l := t)] at hc
  have htrue : isBlank c = true := by
    rcases List.mem_append.1 hc with hfront | hrest
    · exact Text.of_mem_takeWhile hfront
    · exact hall c hrest
  rw [hblank] at htrue
  cases htrue

/-- A diagnostic with words in its message. -/
def Diagnostic.IsReadable (d : Diagnostic) : Prop :=
  strip d.message ≠ []

/-- The known failures have words of their own. -/
theorem KnownFailure.isReadable {f : KnownFailure} (hf : f ∈ all) (line : Text) :
    (f.diagnostic line).IsReadable := by
  simp only [all, List.mem_cons, List.not_mem_nil, or_false] at hf
  rcases hf with rfl | rfl | rfl | rfl
  · exact Text.strip_ne_nil (c := 'C') List.mem_cons_self (by decide)
  · exact Text.strip_ne_nil (c := 'C') List.mem_cons_self (by decide)
  · exact Text.strip_ne_nil (c := 'I') List.mem_cons_self (by decide)
  · exact Text.strip_ne_nil (c := 'C') List.mem_cons_self (by decide)

theorem Diagnostic.isReadable_of_mem_parseKnown {output : Text} {d : Diagnostic}
    (h : d ∈ parseKnown output) : d.IsReadable := by
  obtain ⟨f, hf, line, rfl⟩ := exists_of_mem_parseKnown h
  exact KnownFailure.isReadable hf line

namespace StageReport

theorem isReadable_silentFailure (stage : Text) (exitCode : Int) :
    (silentFailure stage exitCode).IsReadable :=
  Text.strip_ne_nil (c := '\'') List.mem_cons_self (by decide)

/-! ## Outputs without words -/

/-- The message of a record is stripped already. -/
theorem isReadable_iff_of_mem_parse {output : Text} {ds : List Diagnostic}
    (h : Diagnostic.parse output = .ok ds) {d : Diagnostic} (hd : d ∈ ds) :
    d.IsReadable ↔ d.message ≠ [] := by
  obtain ⟨line, -, header, -, hmessage⟩ :=
    (Diagnostic.exists_mem_parse_iff h fun _ m => d.message = m).1 ⟨d, hd, rfl⟩
  rw [Diagnostic.IsReadable, hmessage, Text.strip_strip]

/-- A line that is the header of an error with such a message. -/
def ErrorHeader (P : Text → Prop) (line : Text) : Prop :=
  ∃ header, Header.read? line = some header ∧ header.severity = .error ∧ P (strip header.message)

/-- An output that speaks of errors, and of none in words: no line of either stream holds the marker
of a known failure, there is an error with a blank message on the error stream, and whatever other
errors there are only sum up. -/
structure IsMute (out : CommandOutput) : Prop where
  unmarked : ∀ line ∈ Text.lines out.stdout ++ Text.lines out.stderr,
    KnownFailure.marks line = false
  blank : ∃ line ∈ Text.lines out.stderr, ErrorHeader (· = []) line
  wordless : ∀ line ∈ Text.lines out.stderr,
    ¬ ErrorHeader (fun message => isSummary message = false ∧ message ≠ []) line

variable {stage : Text} {out : CommandOutput} {ds : List Diagnostic} {report : StageReport}

theorem isReadable_of_mem_knownRecords {d : Diagnostic} (hd : d ∈ knownRecords out) :
    d.IsReadable := by
  rcases List.mem_append.1 hd with hd | hd
  · exact Diagnostic.isReadable_of_mem_parseKnown hd
  · exact Diagnostic.isReadable_of_mem_parseKnown hd

/-- Without a marker on any line, all errors that are read count. -/
theorem errorRecords_of_unmarked (h : Diagnostic.parse out.stderr = .ok ds)
    (hmarks : ∀ line ∈ Text.lines out.stdout ++ Text.lines out.stderr,
      KnownFailure.marks line = false) : errorRecords out ds = ds.filter (·.isError) := by
  have hunmarked := compilerRecords_of_unmarked h fun line hline =>
    hmarks line (List.mem_append_right _ hline)
  rw [errorRecords_eq, hunmarked, (knownRecords_eq_nil_iff out).2 hmarks, List.append_nil]

/-- Without a marker on any line, the proper errors are those of the headers that do not sum up
others. -/
theorem exists_proper_iff (h : Diagnostic.parse out.stderr = .ok ds)
    (hmarks : ∀ line ∈ Text.lines out.stdout ++ Text.lines out.stderr,
      KnownFailure.marks line = false) (P : Text → Prop) :
    (∃ d ∈ proper (errorRecords out ds), P d.message) ↔
      ∃ line ∈ Text.lines out.stderr, ErrorHeader (fun m => isSummary m = false ∧ P m) line := by
  refine Iff.trans ?_ (Diagnostic.exists_mem_parse_iff h fun severity m =>
    severity = .error ∧ isSummary m = false ∧ P m)
  refine exists_congr fun d => ?_
  rw [errorRecords_of_unmarked h hmarks, proper, List.mem_filter, List.mem_filter, and_assoc,
    and_assoc, Bool.not_eq_true', Diagnostic.isError, decide_eq_true_iff]

theorem isReadable_iff_of_mem_proper (h : Diagnostic.parse out.stderr = .ok ds)
    (hmarks : ∀ line ∈ Text.lines out.stdout ++ Text.lines out.stderr,
      KnownFailure.marks line = false) {d : Diagnostic} (hd : d ∈ proper (errorRecords out ds)) :
    d.IsReadable ↔ d.message ≠ [] := by
  rw [errorRecords_of_unmarked h hmarks] at hd
  exact isReadable_iff_of_mem_parse h (List.mem_filter.1 (List.mem_filter.1 hd).1).1

/-- Without a marker on any line, the output is mute exactly if there are proper errors, and all of
them are without words. -/
theorem isMute_iff_of_unmarked (h : Diagnostic.parse out.stderr = .ok ds)
    (hmarks : ∀ line ∈ Text.lines out.stdout ++ Text.lines out.stderr,
      KnownFailure.marks line = false) :
    IsMute out ↔
      proper (errorRecords out ds) ≠ [] ∧ ∀ d ∈ proper (errorRecords out ds), ¬ d.IsReadable := by
  have hproper := exists_proper_iff h hmarks
  constructor
  · rintro ⟨-, ⟨line, hline, header, hread, hseverity, hblank⟩, hwordless⟩
    have hsummary : isSummary (strip header.message) = false := by
      rw [hblank]
      decide
    obtain ⟨d, hd, -⟩ := (hproper (· = [])).2
      ⟨line, hline, header, hread, hseverity, hsummary, hblank⟩
    refine ⟨List.ne_nil_of_mem hd, fun d' hd' hreadable => ?_⟩
    have hmessage := (isReadable_iff_of_mem_proper h hmarks hd').1 hreadable
    obtain ⟨line', hline', hheader⟩ := (hproper (· ≠ [])).1 ⟨d', hd', hmessage⟩
    exact hwordless line' hline' hheader
  · rintro ⟨hne, hunreadable⟩
    obtain ⟨d, hd⟩ := List.exists_mem_of_ne_nil _ hne
    have hblank : d.message = [] := by
      by_contra hmessage
      exact hunreadable d hd ((isReadable_iff_of_mem_proper h hmarks hd).2 hmessage)
    obtain ⟨line, hline, header, hread, hseverity, -, hheader⟩ :=
      (hproper (· = [])).1 ⟨d, hd, hblank⟩
    refine ⟨hmarks, ⟨line, hline, header, hread, hseverity, hheader⟩, fun line' hline' hwords => ?_⟩
    obtain ⟨d', hd', hmessage⟩ := (hproper (· ≠ [])).2 ⟨line', hline', hwords⟩
    exact hunreadable d' hd' ((isReadable_iff_of_mem_proper h hmarks hd').2 hmessage)

/-- The output is mute exactly if there are proper errors, and all of them are without words. -/
theorem isMute_iff (h : Diagnostic.parse out.stderr = .ok ds) :
    IsMute out ↔
      proper (errorRecords out ds) ≠ [] ∧ ∀ d ∈ proper (errorRecords out ds), ¬ d.IsReadable := by
  constructor
  · intro hmute
    exact (isMute_iff_of_unmarked h hmute.unmarked).1 hmute
  · rintro ⟨hne, hunreadable⟩
    -- a known failure has words, and is one of the proper errors, so there is none
    have hknown : knownRecords out = [] := by
      rw [List.eq_nil_iff_forall_not_mem]
      intro d hd
      exact hunreadable d ((knownRecords_suffix out ds).subset hd)
        (isReadable_of_mem_knownRecords hd)
    exact (isMute_iff_of_unmarked h ((knownRecords_eq_nil_iff out).1 hknown)).2 ⟨hne, hunreadable⟩

/-- An error that sums up others is readable. -/
theorem isReadable_of_isSummary (h : Diagnostic.parse out.stderr = .ok ds) {d : Diagnostic}
    (hd : d ∈ errorRecords out ds) (hsummary : isSummary d.message = true) : d.IsReadable := by
  rw [errorRecords_eq] at hd
  rcases List.mem_append.1 hd with hread | hknown
  · have hds : d ∈ ds := (List.mem_filter.1 (List.mem_filter.1 hread).1).1
    refine (isReadable_iff_of_mem_parse h hds).2 fun hblank => ?_
    rw [hblank] at hsummary
    exact absurd hsummary (by decide)
  · exact isReadable_of_mem_knownRecords hknown

/-- Among the errors of a report there are readable ones, unless the output is mute. -/
theorem readable_iff (hr : ofOutput stage out = .ok report) (hne : report.errors ≠ []) :
    (∃ d ∈ report.errors, d.IsReadable) ↔ ¬ IsMute out := by
  obtain ⟨ds, hds⟩ : ∃ ds, Diagnostic.parse out.stderr = .ok ds := by
    cases hparse : Diagnostic.parse out.stderr with
    | ok ds => exact ⟨ds, rfl⟩
    | error e =>
      rw [ofOutput, diagnostics, hparse] at hr
      cases hr
  rw [isMute_iff hds]
  have herrors := errors_of_ofOutput hds hr
  by_cases hproper : proper (errorRecords out ds) = []
  · refine iff_of_true ?_ fun hmute => hmute.1 hproper
    rw [if_neg (not_not_intro hproper)] at herrors
    by_cases hnone : errorRecords out ds = []
    · -- there are errors nevertheless, so the stage exited with another code than zero
      rw [if_neg (not_not_intro hnone)] at herrors
      split at herrors
      · rw [herrors]
        exact ⟨_, List.mem_singleton_self _, isReadable_silentFailure stage _⟩
      · exact absurd herrors hne
    · obtain ⟨d, hd⟩ := List.exists_mem_of_ne_nil _ hnone
      rw [if_pos hnone] at herrors
      have hsummary : isSummary d.message = true := by
        by_contra hnot
        exact List.ne_nil_of_mem (List.mem_filter.2 ⟨hd, by simp [hnot]⟩) hproper
      exact ⟨d, herrors ▸ hd, isReadable_of_isSummary hds hd hsummary⟩
  · rw [herrors, if_pos hproper]
    simp only [hproper, ne_eq, not_false_eq_true, true_and, not_forall, not_not, exists_prop]

end StageReport

/-! ## Failures for diagnostics -/

namespace Toolchain

open Run Workspace

/-- The stages whose diagnostics can fail a build, with the output of their process. -/
inductive HasStage (s : Settings) (h : Host) : Text → CommandOutput → Prop
  | check {out : CommandOutput} (ho : Says (outcomeAt s h 1) out) :
      HasStage s h "cargo stylus check" out
  | build {out : CommandOutput} (ho : Says (outcomeAt s h 2) out) : HasStage s h "cargo build" out

/-- The failure tells the errors of a stage. -/
def TellsStage (s : Settings) (h : Host) (f : BuildFailure) : Prop :=
  ∃ label out report, HasStage s h label out ∧ StageReport.ofOutput label out = .ok report ∧
    report.errors = f.errors

variable {s : Settings} {h : Host} {w : Workspace} {f : BuildFailure}

/-- The report of a stage is that on the output of its process. -/
theorem exists_of_reportOf {label : Text} {c : Command} {budget : Binary64} {o : Spawn}
    {report : StageReport} (hr : reportOf label c budget o = .ok report) :
    ∃ out, Says o out ∧ StageReport.ofOutput label out = .ok report := by
  unfold reportOf at hr
  cases ha : answerOf c budget o with
  | error e => rw [ha] at hr; cases hr
  | ok out =>
    rw [ha] at hr
    refine ⟨out, says_of_answerOf ha, ?_⟩
    cases hreport : StageReport.ofOutput label out with
    | error e => simp only [hreport] at hr; cases hr
    | ok report => simp only [hreport] at hr; cases hr; rfl

theorem kind_of_failed {e : Failure} (hf : failed e = some (.failure f)) :
    f.kind ≠ .diagnostics := by
  unfold failed at hf
  split at hf
  · cases hf; rintro ⟨⟩
  · split at hf
    · cases hf; rintro ⟨⟩
    · cases hf

theorem kind_of_decideArtifact {warnings : List Diagnostic} {files : Files}
    (hd : decideArtifact s h w warnings files = some (.failure f)) : f.kind ≠ .diagnostics := by
  unfold decideArtifact at hd
  split at hd
  · exact kind_of_failed hd
  · unfold decideSuccess at hd
    split at hd
    · cases hd
    · exact kind_of_failed hd
    · exact kind_of_failed hd
  · cases hd; rintro ⟨⟩
  · cases hd; rintro ⟨⟩

theorem tellsStage_of_decideBuild {warnings : List Diagnostic} {files : Files}
    (hd : decideBuild s h w warnings files = some (.failure f)) (hkind : f.kind = .diagnostics) :
    TellsStage s h f := by
  unfold decideBuild at hd
  split at hd
  · exact absurd hkind (kind_of_failed hd)
  · rename_i e errors others hreport
    cases hd
    obtain ⟨out, ho, hout⟩ := exists_of_reportOf hreport
    exact ⟨_, out, _, .build ho, hout, rfl⟩
  · exact absurd hkind (kind_of_decideArtifact hd)

theorem tellsStage_of_decideCheck {files : Files}
    (hd : decideCheck s h w files = some (.failure f)) (hkind : f.kind = .diagnostics) :
    TellsStage s h f := by
  unfold decideCheck at hd
  split at hd
  · exact absurd hkind (kind_of_failed hd)
  · rename_i e errors others hreport
    cases hd
    obtain ⟨out, ho, hout⟩ := exists_of_reportOf hreport
    exact ⟨_, out, _, .check ho, hout, rfl⟩
  · exact tellsStage_of_decideBuild hd hkind

/-- Work in a workspace that returns a value, returns a value of the work. -/
theorem exists_of_within {α : Type} {parent : Path} {project source template : Text}
    {work : Workspace → Run α} {h : Host} {a : α}
    (hr : ((within parent project source template work).on h).1 = .ok a) :
    ∃ g h₁, (drawn h g).Noted h₁ ∧ ((work (named parent project h)).on h₁).1 = .ok a := by
  cases hf : (named parent project h).filling source template h.files with
  | mk r g =>
    cases r with
    | error e =>
      rw [within_answer_of_error work hf] at hr
      cases hr
    | ok =>
      obtain ⟨h₁, hn, hwithin⟩ := within_of_ok work hf
      rw [hwithin] at hr
      refine ⟨g, h₁, hn, ?_⟩
      cases hrelease : ((named parent project h).release.on
          ((work (named parent project h)).on h₁).2).1 with
      | error e => rw [hrelease] at hr; cases hr
      | ok => rw [hrelease] at hr; exact hr

/-- A build that fails for its diagnostics tells the errors of its check or of its build. -/
theorem tellsStage_of_compile {source project : Text}
    (hr : ((compile s source project).on h).1 = .ok (.failure f)) (hkind : f.kind = .diagnostics) :
    TellsStage s h f := by
  have hu : Used h 0 h.files h := ⟨rfl, rfl, List.Subset.refl _⟩
  obtain ⟨r, h₁, hversion, hu₁, -⟩ := version_used (s := s) hu
  rw [on_compile hversion] at hr
  match r with
  | .error e => cases hr
  | .ok none =>
    obtain ⟨h₂, hlog, -⟩ := noted_log .error "cargo-stylus is not installed" h₁
    simp only at hr
    rw [toolMissing, on_bind_ok hlog] at hr
    cases hr
    cases hkind
  | .ok (some v) =>
    simp only at hr
    generalize hwork : within s.tempRoot project source Manifest.contract (stages s) = work at hr
    rcases compileEnd_answer (work.on h₁).1 (work.on h₁).2 with
      ⟨result, hresult, hend⟩ | ⟨e, -, -, hend⟩
    · rw [hend] at hr
      cases hr
      cases hanswer : (work.on h₁).1 with
      | error e =>
        rw [hanswer] at hresult
        exact absurd hkind (kind_of_failed hresult)
      | ok result =>
        rw [hanswer] at hresult
        cases hresult
        rw [← hwork] at hanswer
        obtain ⟨g, h₂, hn, hstages⟩ := exists_of_within hanswer
        have hu₂ : Used h 1 g h₂ := hu₁.filled hn
        have hagrees := stages_agrees (s := s) (w := named s.tempRoot project h₁) hu₂
        rw [hstages] at hagrees
        have hdecided := hagrees.resolve_right not_unmeasured_ok
        exact tellsStage_of_decideCheck hdecided.symm hkind
    · rw [hend] at hr
      cases hr

/-- A build that fails for its diagnostics tells the errors of one of its stages, and one of them
has words, unless the output of this stage is mute: then all messages are blank. -/
theorem readable_iff_not_mute {source project : Text}
    (hr : ((compile s source project).on h).1 = .ok (.failure f)) (hkind : f.kind = .diagnostics) :
    ∃ label out report, HasStage s h label out ∧ StageReport.ofOutput label out = .ok report ∧
      report.errors = f.errors ∧
      ((∃ d ∈ f.errors, strip d.message ≠ []) ↔ ¬ StageReport.IsMute out) := by
  obtain ⟨label, out, report, hstage, hreport, herrors⟩ := tellsStage_of_compile hr hkind
  refine ⟨label, out, report, hstage, hreport, herrors, ?_⟩
  have hreadable := StageReport.readable_iff hreport (herrors ▸ f.errors_ne_nil)
  rwa [herrors] at hreadable

/-- A tool that is there, and whose check fails with a header and a blank behind it. -/
def blankHost : Host where
  spawns :=
    [.started { ending := .exited 0 (Text.encode "cargo stylus 0.5.3") [] },
      .started { ending := .exited 1 [] (Text.encode "error:  \n") }]

/-- The one error of the failure has no words, and the output of the check is mute. -/
theorem readable_iff_not_mute_blank :
    ∃ f, ((compile {} "fn main() \x7b\x7d" "contract").on blankHost).1 = .ok (.failure f) ∧
      f.kind = .diagnostics ∧ f.errors = [.error []] ∧
      ∃ label out, HasStage {} blankHost label out ∧ StageReport.IsMute out := by
  have hcompile : ((compile {} "fn main() \x7b\x7d" "contract").on blankHost).1.toOption =
      some (.failure (.ofError (.error []) .diagnostics)) := by
    decide +kernel
  cases hr : ((compile {} "fn main() \x7b\x7d" "contract").on blankHost).1 with
  | error e => rw [hr] at hcompile; cases hcompile
  | ok result =>
    rw [hr] at hcompile
    cases hcompile
    obtain ⟨label, out, report, hstage, -, -, hreadable⟩ := readable_iff_not_mute hr rfl
    refine ⟨_, rfl, rfl, rfl, label, out, hstage, ?_⟩
    by_contra hmute
    obtain ⟨d, hd, hwords⟩ := hreadable.2 hmute
    rw [List.mem_singleton.1 hd] at hwords
    exact hwords rfl

end Toolchain

end ContractBuild
