import ContractBuild.Build.Stage
import ContractBuild.Proofs.Diagnostic.RoundTrip

/-!
# The report of a stage

What a stage reports of its output, said of the two lists that are read from it: what the compiler
says on the error stream without the known failures, and the known failures of both streams. Errors
that only sum up others count only if nothing else is there, and a known failure never is such an
error (`StageReport.not_isSummary_of_known`).

Main statement: `StageReport.splits_of_ofOutput`. In particular a stage has no errors if and only if
it exits with zero, no line of either stream holds the marker of a known failure, and no header on
the error stream is that of an error.
-/

set_option autoImplicit false

namespace ContractBuild

open Text (after? isDigit strip Digits)

/-! ## Known failures -/

namespace KnownFailure

theorem ofLine_eq_nil_iff (line : Text) : ofLine line = [] ↔ marks line = false := by
  rw [ofLine, List.map_eq_nil_iff, List.filter_eq_nil_iff, marks, List.any_eq_false]

/-- A text holds a marker if a part of it does. -/
theorem marks_of_infix {t u : Text} (h : t <:+: u) (ht : marks t = true) : marks u = true := by
  obtain ⟨f, hf, hmarker⟩ := List.any_eq_true.1 ht
  exact List.any_eq_true.2 ⟨f, hf, Text.contains_iff.2 ((Text.contains_iff.1 hmarker).trans h)⟩

end KnownFailure

namespace Diagnostic

theorem parseKnown_eq_nil_iff (output : Text) :
    parseKnown output = [] ↔ ∀ line ∈ Text.lines output, KnownFailure.marks line = false := by
  simp only [parseKnown, List.flatMap_eq_nil_iff, KnownFailure.ofLine_eq_nil_iff]

/-- The known failures in two outputs with a line feed between them are those of both. -/
theorem parseKnown_append_newline (output output' : Text) :
    parseKnown (output ++ '\n' :: output') = parseKnown output ++ parseKnown output' := by
  obtain ⟨blank, hblank, hlines⟩ := Text.lines_append_newline_append output output'
  have hnone : blank.flatMap KnownFailure.ofLine = [] := by
    rcases hblank with rfl | rfl
    · rfl
    · decide
  rw [parseKnown, hlines, List.flatMap_append, List.flatMap_append, hnone, List.append_nil]
  rfl

/-- What is read of a known failure. -/
theorem exists_of_mem_parseKnown {output : Text} {d : Diagnostic} (h : d ∈ parseKnown output) :
    ∃ f ∈ KnownFailure.all, ∃ line, d = f.diagnostic line := by
  obtain ⟨line, -, hd⟩ := List.mem_flatMap.1 h
  obtain ⟨f, hf, rfl⟩ := List.mem_map.1 hd
  exact ⟨f, (List.mem_filter.1 hf).1, line, rfl⟩

theorem isError_of_mem_parseKnown {output : Text} {d : Diagnostic} (h : d ∈ parseKnown output) :
    d.isError = true := by
  obtain ⟨f, -, line, rfl⟩ := exists_of_mem_parseKnown h
  rfl

end Diagnostic

namespace StageReport

/-! ## Summaries -/

theorem countsWarnings_iff {t : Text} :
    countsWarnings t = true ↔
      ∃ digits rest, Digits digits ∧ t = digits ++ (" warning" ++ rest) := by
  constructor
  · intro h
    rw [countsWarnings, List.span_eq_takeWhile_dropWhile] at h
    split at h
    · rename_i d digits rest heq
      obtain ⟨htake, hdrop⟩ := Prod.mk.inj heq
      obtain ⟨after, hafter⟩ := Option.isSome_iff_exists.1 h
      refine ⟨d :: digits, after, ⟨List.cons_ne_nil _ _, fun c hc => ?_⟩, ?_⟩
      · rw [← htake] at hc
        exact Text.of_mem_takeWhile hc
      · rw [← Text.eq_append_of_after? hafter, ← htake, ← hdrop, List.takeWhile_append_dropWhile]
    · cases h
  · rintro ⟨digits, rest, ⟨hne, hdigits⟩, rfl⟩
    have hspan : (digits ++ (" warning" ++ rest)).span isDigit = (digits, " warning" ++ rest) :=
      Text.span_digits hdigits (by decide)
    obtain ⟨d, more, rfl⟩ := List.exists_cons_of_ne_nil hne
    rw [countsWarnings, hspan]
    simp only [Text.after?_append, Option.isSome_some]

/-- A line tells of warnings if the words for it stand anywhere in it. -/
theorem tellsWarnings_iff {t : Text} :
    tellsWarnings t = true ↔ ∃ before digits rest, Digits digits ∧
      t = before ++ (" generated " ++ (digits ++ (" warning" ++ rest))) := by
  induction t with
  | nil =>
    constructor
    · intro h
      cases h
    rintro ⟨before, digits, rest, -, heq⟩
    exact absurd (List.append_eq_nil_iff.1 heq.symm).2 (List.cons_ne_nil _ _)
  | cons c t ih =>
    rw [tellsWarnings, Bool.or_eq_true, ih, Option.any_eq_true]
    simp only [Text.after?_eq_some_iff, countsWarnings_iff]
    constructor
    · rintro (⟨_, heq, digits, rest, hdigits, rfl⟩ | ⟨before, digits, rest, hdigits, rfl⟩)
      · exact ⟨[], digits, rest, hdigits, heq⟩
      · exact ⟨c :: before, digits, rest, hdigits, rfl⟩
    · rintro ⟨before, digits, rest, hdigits, heq⟩
      -- the words stand in front, or behind the first character
      cases before with
      | nil => exact .inl ⟨_, heq, digits, rest, hdigits, rfl⟩
      | cons d before =>
        obtain ⟨-, heq⟩ := List.cons.inj heq
        exact .inr ⟨before, digits, rest, hdigits, heq⟩

/-- A message sums up others if it begins with one of two phrases, or tells on its first line how
many warnings were generated. -/
theorem isSummary_iff {message : Text} :
    isSummary message = true ↔
      (∃ rest, message = "could not compile" ++ rest) ∨
      (∃ rest, message = "aborting due to" ++ rest) ∨
        ∃ before digits rest, Digits digits ∧ message.takeWhile (· ≠ '\n') =
          before ++ (" generated " ++ (digits ++ (" warning" ++ rest))) := by
  rw [isSummary, Bool.or_eq_true, Bool.or_eq_true, Option.isSome_iff_exists,
    Option.isSome_iff_exists, tellsWarnings_iff, or_assoc]
  simp only [Text.after?_eq_some_iff]

end StageReport

/-! ## Known failures are no summaries -/

/-- What is found in front of a unit is a run of digits. -/
theorem isDigit_of_mem_runBefore? {needsBlank : Bool} {unit : Text} {inRun : Bool} {t run : Text}
    (h : runBefore? needsBlank unit inRun t = some run) : ∀ c ∈ run, isDigit c = true := by
  fun_induction runBefore? needsBlank unit inRun t with
  | case1 => cases h
  | case2 inRun c rest hstart after spaced hunit =>
    cases h
    intro d hd
    rcases List.mem_cons.1 hd with rfl | hd
    · exact (Bool.and_eq_true_iff.1 hstart).1
    · exact Text.of_mem_takeWhile hd
  | case3 inRun c rest hstart after spaced hunit ih => exact ih h
  | case4 inRun c rest hstart ih => exact ih h

namespace StageReport

/-- The message of a known failure never sums up others, whatever size it mentions. -/
theorem not_isSummary_of_known {f : KnownFailure} (hf : f ∈ KnownFailure.all) (line : Text) :
    isSummary (f.diagnostic line).message = false := by
  simp only [KnownFailure.all, List.mem_cons, List.not_mem_nil, or_false] at hf
  rcases hf with rfl | rfl | rfl | rfl
  · -- the size is a run of digits or unknown, so the message has no letter of `generated`
    have hsize : 'g' ∉ (kilobytes? line).getD "unknown" := by
      cases hk : kilobytes? line with
      | none => decide
      | some digits =>
        intro hg
        exact absurd (isDigit_of_mem_runBefore? hk 'g' hg) (by decide)
    have hmessage : 'g' ∉ (KnownFailure.size.diagnostic line).message := by
      intro hg
      rcases List.mem_append.1 hg with hg | hg
      · rcases List.mem_append.1 hg with hg | hg
        · exact absurd hg (by decide)
        · exact hsize hg
      · exact absurd hg (by decide)
    rw [Bool.eq_false_iff]
    intro h
    rcases isSummary_iff.1 h with ⟨rest, heq⟩ | ⟨rest, heq⟩ | ⟨before, digits, rest, -, heq⟩
    · have hhead : some 'C' = some 'c' := congrArg List.head? heq
      exact absurd hhead (by decide)
    · have hhead : some 'C' = some 'a' := congrArg List.head? heq
      exact absurd hhead (by decide)
    · have hg : 'g' ∈ before ++ (" generated " ++ (digits ++ (" warning" ++ rest))) :=
        List.mem_append_right _ (List.mem_append_left _ (by decide))
      rw [← heq] at hg
      exact hmessage (List.takeWhile_subset _ hg)
  · have hclosed : isSummary "Contract initialization exceeds gas limit" = false := by decide
    exact hclosed
  · have hclosed : isSummary "Invalid storage layout detected" = false := by decide
    exact hclosed
  · have hclosed : isSummary "Contract must have an #[entrypoint] attribute" = false := by decide
    exact hclosed

end StageReport

/-! ## What is read of the error stream -/

namespace Diagnostic

/-- The headings that are read are those of the header lines, with the messages stripped. -/
theorem map_heading_of_parse {output : Text} {ds : List Diagnostic} (h : parse output = .ok ds) :
    ds.map heading = ((Text.lines output).filterMap Header.read?).map
      fun header => { header with message := strip header.message } := by
  obtain ⟨before, sections, hcut⟩ := exists_cut (Text.lines output)
  rw [parse_of_cut hcut] at h
  obtain ⟨-, rfl⟩ := readSections_eq_ok_iff.1 h
  rw [hcut.filterMap_header, List.map_map, List.map_map]
  rfl

/-- The records of a severity and a message are those of the header lines with them. -/
theorem exists_mem_parse_iff {output : Text} {ds : List Diagnostic} (h : parse output = .ok ds)
    (P : Severity → Text → Prop) :
    (∃ d ∈ ds, P d.severity d.message) ↔
      ∃ line ∈ Text.lines output, ∃ header, Header.read? line = some header ∧
        P header.severity (strip header.message) := by
  have hmap := map_heading_of_parse h
  constructor
  · rintro ⟨d, hd, hp⟩
    have hmem : d.heading ∈ ds.map heading := List.mem_map_of_mem hd
    rw [hmap] at hmem
    obtain ⟨header, hheader, heq⟩ := List.mem_map.1 hmem
    obtain ⟨line, hline, hread⟩ := List.mem_filterMap.1 hheader
    have hseverity : header.severity = d.severity := congrArg Header.severity heq
    have hmessage : strip header.message = d.message := congrArg Header.message heq
    exact ⟨line, hline, header, hread, by rw [hseverity, hmessage]; exact hp⟩
  · rintro ⟨line, hline, header, hread, hp⟩
    have hmem : { header with message := strip header.message } ∈ ds.map heading := by
      rw [hmap]
      exact List.mem_map_of_mem (List.mem_filterMap.2 ⟨line, hline, hread⟩)
    obtain ⟨d, hd, heq⟩ := List.mem_map.1 hmem
    have hseverity : d.severity = header.severity := congrArg Header.severity heq
    have hmessage : d.message = strip header.message := congrArg Header.message heq
    exact ⟨d, hd, by rw [hseverity, hmessage]; exact hp⟩

/-- The message of a diagnostic that is read is part of a line. -/
theorem exists_line_of_mem_parse {output : Text} {ds : List Diagnostic} (h : parse output = .ok ds)
    {d : Diagnostic} (hd : d ∈ ds) : ∃ line ∈ Text.lines output, d.message <:+: line := by
  obtain ⟨line, hline, header, hread, hmessage⟩ :=
    (exists_mem_parse_iff h fun _ message => message = d.message).1 ⟨d, hd, rfl⟩
  obtain ⟨-, htext⟩ := Header.read?_eq_some_iff.1 hread
  have hsuffix : header.message <:+ header.text :=
    (List.suffix_append _ header.message).trans
      ((List.suffix_append _ _).trans (List.suffix_append _ _))
  refine ⟨line, hline, ?_⟩
  rw [← hmessage, htext]
  exact (Text.infix_strip header.message).trans hsuffix.isInfix

end Diagnostic

/-! ## The split -/

namespace StageReport

/-- What the compiler says, without the known failures. -/
def compilerRecords (ds : List Diagnostic) : List Diagnostic :=
  ds.filter fun d => !KnownFailure.marks d.message

/-- The known failures of both streams. -/
def knownRecords (out : CommandOutput) : List Diagnostic :=
  Diagnostic.parseKnown out.stdout ++ Diagnostic.parseKnown out.stderr

/-- All errors of an output, of which `ds` is read on the error stream. -/
def errorRecords (out : CommandOutput) (ds : List Diagnostic) : List Diagnostic :=
  (compilerRecords ds ++ knownRecords out).filter (·.isError)

/-- The diagnostics that do not sum up others. -/
def proper (ds : List Diagnostic) : List Diagnostic :=
  ds.filter fun d => !isSummary d.message

/-- The report splits an output, of which `ds` is read on the error stream. Its errors are the
proper ones; else all errors there are, which sum up others; but a stage that failed without a word
has one of its own. -/
structure Splits (stage : Text) (out : CommandOutput) (ds : List Diagnostic)
    (report : StageReport) : Prop where
  ofProper : proper (errorRecords out ds) ≠ [] → report.errors = proper (errorRecords out ds)
  ofSummaries : proper (errorRecords out ds) = [] →
    (errorRecords out ds = [] → out.exitCode = 0) → report.errors = errorRecords out ds
  ofSilence : errorRecords out ds = [] → out.exitCode ≠ 0 →
    report.errors = [silentFailure stage out.exitCode]
  others : report.others = (compilerRecords ds).filter fun d => !d.isError && !isSummary d.message
  clean_iff : report.errors = [] ↔ out.exitCode = 0 ∧
    (∀ line ∈ Text.lines out.stdout ++ Text.lines out.stderr, KnownFailure.marks line = false) ∧
    ∀ line ∈ Text.lines out.stderr, ∀ header, Header.read? line = some header →
      header.severity ≠ .error
  known : knownRecords out <:+ report.errors

variable {stage : Text} {out : CommandOutput} {ds : List Diagnostic}

theorem isError_of_mem_knownRecords {d : Diagnostic} (h : d ∈ knownRecords out) :
    d.isError = true := by
  rcases List.mem_append.1 h with h | h
  · exact Diagnostic.isError_of_mem_parseKnown h
  · exact Diagnostic.isError_of_mem_parseKnown h

theorem proper_knownRecords (out : CommandOutput) :
    proper (knownRecords out) = knownRecords out := by
  refine List.filter_eq_self.2 fun d hd => ?_
  have hknown : ∃ f ∈ KnownFailure.all, ∃ line, d = f.diagnostic line := by
    rcases List.mem_append.1 hd with hd | hd
    · exact Diagnostic.exists_of_mem_parseKnown hd
    · exact Diagnostic.exists_of_mem_parseKnown hd
  obtain ⟨f, hf, line, rfl⟩ := hknown
  rw [not_isSummary_of_known hf]
  rfl

/-- The errors of an output are those of the compiler, and then all known failures. -/
theorem errorRecords_eq (out : CommandOutput) (ds : List Diagnostic) :
    errorRecords out ds = (compilerRecords ds).filter (·.isError) ++ knownRecords out := by
  rw [errorRecords, List.filter_append, List.filter_eq_self.2 fun d => isError_of_mem_knownRecords]

theorem withoutSummaries_eq (errors : List Diagnostic) :
    withoutSummaries errors = if proper errors = [] then errors else proper errors := by
  rw [withoutSummaries]
  match errors with
  | [] => rfl
  | [e] =>
    cases hs : isSummary e.message <;> simp [proper, hs]
  | e :: e' :: errors => simp [proper]

theorem knownRecords_eq_nil_iff (out : CommandOutput) :
    knownRecords out = [] ↔ ∀ line ∈ Text.lines out.stdout ++ Text.lines out.stderr,
      KnownFailure.marks line = false := by
  rw [knownRecords, List.append_eq_nil_iff, Diagnostic.parseKnown_eq_nil_iff,
    Diagnostic.parseKnown_eq_nil_iff, ← List.forall_mem_append]

/-- Without a marker on a line there is none in a message, so all that is read counts. -/
theorem compilerRecords_of_unmarked (h : Diagnostic.parse out.stderr = .ok ds)
    (hmarks : ∀ line ∈ Text.lines out.stderr, KnownFailure.marks line = false) :
    compilerRecords ds = ds := by
  refine List.filter_eq_self.2 fun d hd => ?_
  obtain ⟨line, hline, hinfix⟩ := Diagnostic.exists_line_of_mem_parse h hd
  cases hd : KnownFailure.marks d.message with
  | false => rfl
  | true =>
    have hline' := KnownFailure.marks_of_infix hinfix hd
    rw [hmarks line hline] at hline'
    cases hline'

/-- No errors are among the records if and only if nothing on the two streams speaks of one. -/
theorem errorRecords_eq_nil_iff (h : Diagnostic.parse out.stderr = .ok ds) :
    errorRecords out ds = [] ↔
      (∀ line ∈ Text.lines out.stdout ++ Text.lines out.stderr,
        KnownFailure.marks line = false) ∧
      ∀ line ∈ Text.lines out.stderr, ∀ header, Header.read? line = some header →
        header.severity ≠ .error := by
  rw [errorRecords_eq, List.append_eq_nil_iff, knownRecords_eq_nil_iff, and_comm]
  refine and_congr_right fun hmarks => ?_
  rw [compilerRecords_of_unmarked h fun line hline => hmarks line (List.mem_append_right _ hline),
    List.filter_eq_nil_iff]
  constructor
  · intro hnone line hline header hread herror
    obtain ⟨d, hd, hseverity⟩ :=
      (Diagnostic.exists_mem_parse_iff h fun severity _ => severity = .error).2
        ⟨line, hline, header, hread, herror⟩
    exact hnone d hd (decide_eq_true hseverity)
  · intro hnone d hd herror
    obtain ⟨line, hline, header, hread, hseverity⟩ :=
      (Diagnostic.exists_mem_parse_iff h fun severity _ => severity = .error).1
        ⟨d, hd, of_decide_eq_true herror⟩
    exact hnone line hline header hread hseverity

/-- The errors of a report: the proper ones; else all there are; else the one of a stage that failed
without a word; else none. -/
theorem errors_ofDiagnostics (stage : Text) (exitCode : Int) (records : List Diagnostic) :
    (ofDiagnostics stage exitCode records).errors =
      if proper (records.filter (·.isError)) ≠ [] then proper (records.filter (·.isError))
      else if records.filter (·.isError) ≠ [] then records.filter (·.isError)
      else if exitCode ≠ 0 then [silentFailure stage exitCode]
      else [] := by
  simp only [ofDiagnostics, withoutSummaries_eq]
  generalize records.filter (·.isError) = errors
  by_cases hproper : proper errors = []
  · by_cases hnone : errors = []
    · simp [hnone, proper]
    · simp [hproper, hnone]
  · simp [hproper]

theorem errors_eq_nil_iff (stage : Text) (exitCode : Int) (records : List Diagnostic) :
    (ofDiagnostics stage exitCode records).errors = [] ↔
      exitCode = 0 ∧ records.filter (·.isError) = [] := by
  rw [errors_ofDiagnostics]
  generalize records.filter (·.isError) = errors
  split
  · rename_i hproper
    refine iff_of_false hproper ?_
    rintro ⟨-, rfl⟩
    exact hproper rfl
  · split
    · rename_i hne
      exact iff_of_false hne fun h => hne h.2
    · rename_i hnone
      split
      · rename_i hcode
        exact iff_of_false (List.cons_ne_nil _ _) fun h => hcode h.1
      · rename_i hcode
        exact iff_of_true rfl ⟨not_not.1 hcode, not_not.1 hnone⟩

/-- The others are those of the compiler: a known failure is an error. -/
theorem others_ofDiagnostics (stage : Text) (exitCode : Int) (out : CommandOutput)
    (ds : List Diagnostic) :
    (ofDiagnostics stage exitCode (compilerRecords ds ++ knownRecords out)).others =
      (compilerRecords ds).filter fun d => !d.isError && !isSummary d.message := by
  have hknown : (knownRecords out).filter (fun d => !d.isError && !isSummary d.message) = [] := by
    rw [List.filter_eq_nil_iff]
    intro d hd
    rw [isError_of_mem_knownRecords hd]
    exact Bool.false_ne_true
  show (compilerRecords ds ++ knownRecords out).filter _ = _
  rw [List.filter_append, hknown, List.append_nil]

/-- What a stage reports of its output, once its error stream is read. -/
theorem ofOutput_eq (stage : Text) (h : Diagnostic.parse out.stderr = .ok ds) :
    ofOutput stage out =
      .ok (ofDiagnostics stage out.exitCode (compilerRecords ds ++ knownRecords out)) := by
  rw [ofOutput, diagnostics, h, Diagnostic.parseKnown_append_newline]
  rfl

/-- The errors that a stage reports, by the records of its output. -/
theorem errors_of_ofOutput {report : StageReport} (h : Diagnostic.parse out.stderr = .ok ds)
    (hr : ofOutput stage out = .ok report) :
    report.errors =
      if proper (errorRecords out ds) ≠ [] then proper (errorRecords out ds)
      else if errorRecords out ds ≠ [] then errorRecords out ds
      else if out.exitCode ≠ 0 then [silentFailure stage out.exitCode]
      else [] := by
  rw [ofOutput_eq stage h] at hr
  cases hr
  exact errors_ofDiagnostics stage out.exitCode (compilerRecords ds ++ knownRecords out)

/-- The known failures are the last of the proper errors. -/
theorem knownRecords_suffix (out : CommandOutput) (ds : List Diagnostic) :
    knownRecords out <:+ proper (errorRecords out ds) := by
  rw [errorRecords_eq, proper, List.filter_append]
  exact ⟨_, congrArg _ (proper_knownRecords out).symm⟩

/-- A stage whose error stream can be read splits its output. -/
theorem splits_of_ofOutput (stage : Text) (out : CommandOutput) (ds : List Diagnostic)
    (h : Diagnostic.parse out.stderr = .ok ds) :
    ∃ report, ofOutput stage out = .ok report ∧ Splits stage out ds report := by
  refine ⟨_, ofOutput_eq stage h, ?_⟩
  have herrors := errors_of_ofOutput h (ofOutput_eq stage h)
  have hproper : errorRecords out ds = [] → proper (errorRecords out ds) = [] := by
    intro hnone
    rw [hnone]
    rfl
  refine ⟨?_, ?_, ?_, others_ofDiagnostics stage _ out ds, ?_, ?_⟩
  · intro hne
    rw [herrors, if_pos hne]
  · intro hsummaries hsilent
    rw [herrors, if_neg (not_not_intro hsummaries)]
    by_cases hnone : errorRecords out ds = []
    · rw [if_neg (not_not_intro hnone), if_neg (not_not_intro (hsilent hnone)), hnone]
    · rw [if_pos hnone]
  · intro hnone hcode
    rw [herrors, if_neg (not_not_intro (hproper hnone)), if_neg (not_not_intro hnone),
      if_pos hcode]
  · rw [errors_eq_nil_iff, ← errorRecords_eq_nil_iff h]
    rfl
  · have hknown := knownRecords_suffix out ds
    rw [herrors]
    by_cases hne : proper (errorRecords out ds) = []
    · -- without a proper error there is no known failure either
      rw [hne, List.suffix_nil] at hknown
      rw [hknown]
      exact List.nil_suffix
    · rw [if_pos hne]
      exact hknown

/-- A stage that exits with zero, with a summary and a warning on its error stream, and the marker
of a known failure on the other one. -/
def markedOutput : CommandOutput where
  exitCode := 0
  stdout := "note: no entrypoint"
  stderr := "error: could not compile `demo`\nwarning: unused variable\n"

theorem splits_of_ofOutput_marked :
    let ds : List Diagnostic := [.error "could not compile `demo`", .warning "unused variable"]
    Diagnostic.parse markedOutput.stderr = .ok ds ∧
      ∃ report, ofOutput "cargo build" markedOutput = .ok report ∧
        Splits "cargo build" markedOutput ds report := by
  have hread : Diagnostic.parse markedOutput.stderr =
      .ok [.error "could not compile `demo`", .warning "unused variable"] := by
    decide +kernel
  exact ⟨hread, splits_of_ofOutput "cargo build" markedOutput _ hread⟩

end StageReport

end ContractBuild
