import ContractBuild.Proofs.Build.Stage
import Mathlib.Data.List.Nodup

/-!
# Known failures that are told twice

A known failure is reported for every line of either stream that holds its marker, in words that
depend on nothing but the size that the line mentions; nothing joins two reports of one failure. A
header with a marker is read by the compiler's grammar as well. What is read there is dropped if the
marker stands in the message, but not if it stands in the code alone.

So the errors of a stage repeat a known failure just in these two ways. Main statement:
`StageReport.repetitions_of_ofOutput`.
-/

set_option autoImplicit false

namespace ContractBuild

open Text (strip isBlank isDigit)

/-! ## Parts of a text -/

namespace Text

/-- A part of a text that does not hold a character stands before or behind that character. -/
theorem infix_or_infix {needle before after : Text} {c : Char} (hc : c ∉ needle)
    (h : needle <:+: before ++ c :: after) : needle <:+: before ∨ needle <:+: after := by
  obtain ⟨start, rest, heq⟩ := h
  rcases List.append_eq_append_iff.1 heq with ⟨more, hbefore, -⟩ | ⟨more, hmore, hafter⟩
  · exact .inl ⟨start, more, hbefore.symm⟩
  · cases more with
    | nil =>
      rw [List.append_nil] at hmore
      exact .inl ⟨start, [], by rw [hmore, List.append_nil]⟩
    | cons d more =>
      obtain ⟨rfl, rfl⟩ := List.cons.inj hafter
      -- the part ends behind the character, so it begins behind it too
      rcases List.append_eq_append_iff.1 hmore with ⟨front, -, hneedle⟩ | ⟨front, -, hfront⟩
      · exact absurd (hneedle ▸ List.mem_append_right front List.mem_cons_self) hc
      · cases front with
        | nil =>
          rw [List.nil_append] at hfront
          exact absurd (hfront ▸ List.mem_cons_self) hc
        | cons e front =>
          obtain ⟨-, rfl⟩ := List.cons.inj hfront
          exact .inr ⟨front, rest, rfl⟩

/-- A part that does not begin with a character of the class is not touched when such characters are
dropped in front. -/
theorem infix_dropWhile {p : Char → Bool} {needle t : Text}
    (hstart : needle.head?.any p = false) (h : needle <:+: t) :
    needle <:+: t.dropWhile p := by
  induction t with
  | nil => exact h
  | cons c rest ih =>
    cases hc : p c with
    | false => rwa [List.dropWhile_cons_of_neg (by simp [hc])]
    | true =>
      rw [List.dropWhile_cons_of_pos hc]
      rcases List.infix_cons_iff.1 h with hprefix | hinfix
      · cases needle with
        | nil => exact List.nil_infix
        | cons d needle =>
          obtain rfl := (List.cons_prefix_cons.1 hprefix).1
          rw [List.head?_cons, Option.any_some, hc] at hstart
          cases hstart
      · exact ih hinfix

theorem infix_dropTrailing {p : Char → Bool} {needle t : Text}
    (hend : needle.getLast?.any p = false) (h : needle <:+: t) :
    needle <:+: dropTrailing p t := by
  rw [← List.head?_reverse] at hend
  have hback := infix_dropWhile hend (List.reverse_infix.2 h)
  rw [dropTrailing, ← List.reverse_infix, List.reverse_reverse]
  exact hback

/-- A part with other characters at its ends is not touched by stripping. -/
theorem infix_strip_of_infix {needle t : Text} (hstart : needle.head?.any isBlank = false)
    (hend : needle.getLast?.any isBlank = false) (h : needle <:+: t) :
    needle <:+: strip t :=
  infix_dropTrailing hend (infix_dropWhile hstart h)

end Text

/-! ## Markers in headers -/

namespace KnownFailure

/-- The marker is a few words, without the characters that a header is divided by. -/
structure IsWords (marker : Text) : Prop where
  colon : ':' ∉ marker
  bracket : '[' ∉ marker
  closing : ']' ∉ marker
  start : marker.head?.any isBlank = false
  last : marker.getLast?.any isBlank = false
  severity : ∀ s : Severity, Text.contains marker s.name = false

theorem isWords_marker {f : KnownFailure} (hf : f ∈ all) : IsWords f.marker := by
  simp only [all, List.mem_cons, List.not_mem_nil, or_false] at hf
  rcases hf with rfl | rfl | rfl | rfl <;>
    exact ⟨by decide, by decide, by decide, by decide, by decide,
      fun s => by cases s <;> decide⟩

theorem marks_iff {t : Text} : marks t = true ↔ ∃ f ∈ all, f.marker <:+: t := by
  simp only [marks, List.any_eq_true, Text.contains_iff]

/-- A marker in a header stands in its code or in its message, and there also if that is
stripped. -/
theorem marks_text_iff (h : Header) :
    marks h.text = true ↔
      (∃ code ∈ h.code, marks code = true) ∨ marks (strip h.message) = true := by
  obtain ⟨severity, code, message⟩ := h
  constructor
  · intro hmarks
    obtain ⟨f, hf, hinfix⟩ := marks_iff.1 hmarks
    have hwords := isWords_marker hf
    have hname : ¬ f.marker <:+: severity.name := by
      rw [← Text.contains_iff, hwords.severity severity]
      exact Bool.false_ne_true
    have hcut : f.marker <:+:
        (severity.name ++ Header.writtenCode code) ++ ':' :: (' ' :: message) := by
      simpa [Header.text] using hinfix
    -- a marker holds neither a colon nor a bracket, so it lies in one of the parts between them
    rcases Text.infix_or_infix hwords.colon hcut with hfront | hmessage
    · cases code with
      | none => exact absurd (by simpa [Header.writtenCode] using hfront) hname
      | some code =>
        have hcoded : f.marker <:+: severity.name ++ '[' :: (code ++ ']' :: []) := hfront
        rcases Text.infix_or_infix hwords.bracket hcoded with h | h
        · exact absurd h hname
        · refine .inl ⟨code, rfl, marks_iff.2 ⟨f, hf, ?_⟩⟩
          rcases Text.infix_or_infix hwords.closing h with h | h
          · exact h
          · exact h.trans List.nil_infix
    · have hblank : strip (' ' :: message) = strip message := rfl
      have hstrip := Text.infix_strip_of_infix hwords.start hwords.last hmessage
      rw [hblank] at hstrip
      exact .inr (marks_iff.2 ⟨f, hf, hstrip⟩)
  · rintro (⟨c, rfl, hcode⟩ | hmessage)
    · refine marks_of_infix ?_ hcode
      exact ⟨severity.name ++ ['['], ']' :: (": " ++ message), by
        simp [Header.text, Header.writtenCode]⟩
    · have hsuffix : message <:+ Header.text ⟨severity, code, message⟩ :=
        (List.suffix_append _ message).trans
          ((List.suffix_append _ _).trans (List.suffix_append _ _))
      exact marks_of_infix ((Text.infix_strip message).trans hsuffix.isInfix) hmessage

/-! ## Reports of one failure -/

/-- No two known failures give the same advice. -/
theorem nodup_suggestions : (all.map (·.suggestion)).Nodup := by
  decide

/-- A size that is read is not the word that stands for a size that is not. -/
theorem ne_unknown_of_kilobytes {line digits : Text} (h : kilobytes? line = some digits) :
    digits ≠ "unknown".toList := by
  intro heq
  have hletter : 'u' ∈ digits := by
    rw [heq]
    decide
  exact absurd (isDigit_of_mem_runBefore? h 'u' hletter) (by decide)

theorem kilobytes_inj {line line' : Text}
    (h : (kilobytes? line).getD "unknown" = (kilobytes? line').getD "unknown") :
    kilobytes? line = kilobytes? line' := by
  cases hk : kilobytes? line with
  | none =>
    cases hk' : kilobytes? line' with
    | none => rfl
    | some digits' =>
      rw [hk, hk'] at h
      exact absurd h.symm (ne_unknown_of_kilobytes hk')
  | some digits =>
    cases hk' : kilobytes? line' with
    | none =>
      rw [hk, hk'] at h
      exact absurd h (ne_unknown_of_kilobytes hk)
    | some digits' =>
      rw [hk, hk'] at h
      exact congrArg some h

/-- A failure is reported in the same way for two lines, but for the size if it speaks of one. -/
theorem diagnostic_eq_iff {f : KnownFailure} (hf : f ∈ all) {line line' : Text} :
    f.diagnostic line = f.diagnostic line' ↔
      (f = size → kilobytes? line = kilobytes? line') := by
  constructor
  · rintro h rfl
    have hmessage := congrArg Diagnostic.message h
    exact kilobytes_inj (List.append_cancel_left (List.append_cancel_right hmessage))
  · intro h
    simp only [all, List.mem_cons, List.not_mem_nil, or_false] at hf
    rcases hf with rfl | rfl | rfl | rfl
    · rw [diagnostic, diagnostic, h rfl]
    · rfl
    · rfl
    · rfl

/-- Two lines report the same known failure, and if that speaks of a size, the same size. -/
def Repeats (line line' : Text) : Prop :=
  ∃ f ∈ all, Text.contains f.marker line = true ∧ Text.contains f.marker line' = true ∧
    (f = size → kilobytes? line = kilobytes? line')

theorem mem_ofLine_iff {line : Text} {d : Diagnostic} :
    d ∈ ofLine line ↔
      ∃ f ∈ all, Text.contains f.marker line = true ∧ f.diagnostic line = d := by
  simp only [ofLine, List.mem_map, List.mem_filter, and_assoc]

/-- One line reports a failure once. -/
theorem nodup_ofLine (line : Text) : (ofLine line).Nodup := by
  refine List.Nodup.of_map Diagnostic.suggestion ?_
  have hmap : (ofLine line).map Diagnostic.suggestion =
      ((all.filter fun f => Text.contains f.marker line).map (·.suggestion)).map some := by
    rw [ofLine, List.map_map, List.map_map]
    rfl
  rw [hmap]
  exact (nodup_suggestions.sublist (List.filter_sublist.map _)).map fun _ _ => Option.some.inj

theorem disjoint_ofLine_iff {line line' : Text} :
    (ofLine line).Disjoint (ofLine line') ↔ ¬ Repeats line line' := by
  constructor
  · rintro hdisjoint ⟨f, hf, hline, hline', hsize⟩
    have hsame := (diagnostic_eq_iff hf).2 hsize
    exact hdisjoint (mem_ofLine_iff.2 ⟨f, hf, hline, rfl⟩)
      (mem_ofLine_iff.2 ⟨f, hf, hline', hsame.symm⟩)
  · intro hnot d hd hd'
    obtain ⟨f, hf, hline, rfl⟩ := mem_ofLine_iff.1 hd
    obtain ⟨g, hg, hline', hsame⟩ := mem_ofLine_iff.1 hd'
    have hadvice : g.suggestion = f.suggestion :=
      Option.some.inj (congrArg Diagnostic.suggestion hsame)
    -- the advice tells the failures apart, so both lines report the same one
    obtain rfl := List.inj_on_of_nodup_map nodup_suggestions hg hf hadvice
    exact hnot ⟨g, hg, hline, hline', (diagnostic_eq_iff hg).1 hsame.symm⟩

end KnownFailure

/-- The header of an error that a marker stands in the code of, but not in the message, and that does
not sum up others. -/
structure Header.HidesMarker (h : Header) : Prop where
  severity : h.severity = .error
  code : ∃ code ∈ h.code, KnownFailure.marks code = true
  message : KnownFailure.marks (strip h.message) = false
  proper : StageReport.isSummary (strip h.message) = false

namespace StageReport

open KnownFailure (marks Repeats ofLine)

variable {stage : Text} {out : CommandOutput} {ds : List Diagnostic} {report : StageReport}

/-! ## The known failures of a stage -/

/-- The lines of both streams of a stage. -/
def bothLines (out : CommandOutput) : List Text :=
  Text.lines out.stdout ++ Text.lines out.stderr

/-- A stage tells each known failure once if no line repeats another. -/
theorem nodup_knownRecords_iff (out : CommandOutput) :
    (knownRecords out).Nodup ↔ (bothLines out).Pairwise fun line line' => ¬ Repeats line line' := by
  have heq : knownRecords out = (bothLines out).flatMap ofLine := by
    rw [knownRecords, bothLines, List.flatMap_append]
    rfl
  rw [heq, List.nodup_flatMap]
  constructor
  · rintro ⟨-, hdisjoint⟩
    exact hdisjoint.imp fun h => KnownFailure.disjoint_ofLine_iff.1 h
  · intro hnot
    refine ⟨fun line _ => KnownFailure.nodup_ofLine line, hnot.imp fun h => ?_⟩
    exact KnownFailure.disjoint_ofLine_iff.2 h

/-! ## What the compiler says of them -/

/-- The errors of a report are those of the compiler and then the known failures; beside a known
failure, all errors of the compiler that sum up others are left out. -/
theorem exists_spoken (hread : Diagnostic.parse out.stderr = .ok ds)
    (hreport : ofOutput stage out = .ok report) :
    ∃ spoken, report.errors = spoken ++ knownRecords out ∧
      (knownRecords out ≠ [] → spoken = proper ((compilerRecords ds).filter (·.isError))) := by
  by_cases hknown : knownRecords out = []
  · exact ⟨report.errors, by rw [hknown, List.append_nil], fun h => absurd hknown h⟩
  · have hsplit : proper (errorRecords out ds) =
        proper ((compilerRecords ds).filter (·.isError)) ++ knownRecords out := by
      rw [errorRecords_eq, proper, List.filter_append]
      exact congrArg _ (proper_knownRecords out)
    have hproper : proper (errorRecords out ds) ≠ [] := by
      rw [hsplit]
      exact List.append_ne_nil_of_right_ne_nil _ hknown
    refine ⟨_, ?_, fun _ => rfl⟩
    rw [errors_of_ofOutput hread hreport, if_pos hproper, hsplit]

/-- A diagnostic of the compiler is among the proper errors unless its message holds a marker. -/
theorem mem_proper_iff {d : Diagnostic} (hd : d ∈ ds) :
    d ∈ proper ((compilerRecords ds).filter (·.isError)) ↔
      d.severity = .error ∧ marks d.message = false ∧ isSummary d.message = false := by
  simp only [proper, compilerRecords, List.mem_filter, hd, true_and, Bool.not_eq_true',
    Diagnostic.isError, decide_eq_true_eq]
  rw [and_assoc, and_left_comm]

/-- The errors of a report repeat a known failure in two ways. It is told twice if two lines of the
streams report it, with the same size if it speaks of one; and the diagnostic of a header with a
marker is told beside it if the marker stands in the code of the header alone. -/
theorem repetitions_of_ofOutput {before : List Text} {sections : List Section}
    (hcut : IsCut (Text.lines out.stderr) before sections)
    (hreport : ofOutput stage out = .ok report) :
    ∃ spoken, report.errors = spoken ++ knownRecords out ∧
      ((knownRecords out).Nodup ↔
        (bothLines out).Pairwise fun line line' => ¬ Repeats line line') ∧
      ∀ s ∈ sections, marks s.line = true →
        (s.diagnostic ∈ spoken ↔ s.header.HidesMarker) := by
  obtain ⟨ds, hread⟩ : ∃ ds, Diagnostic.parse out.stderr = .ok ds := by
    cases hparse : Diagnostic.parse out.stderr with
    | ok ds => exact ⟨ds, rfl⟩
    | error e =>
      rw [ofOutput, diagnostics, hparse] at hreport
      cases hreport
  obtain ⟨spoken, herrors, hspoken⟩ := exists_spoken hread hreport
  refine ⟨spoken, herrors, nodup_knownRecords_iff out, fun s hs hmarks => ?_⟩
  -- the marker on the line of the header is reported, so there are known failures
  have hknown : knownRecords out ≠ [] := by
    intro hnone
    have hline : s.line ∈ Text.lines out.stderr := by
      rw [hcut.eq]
      exact List.mem_append_right _ (List.mem_flatMap.2 ⟨s, hs, List.mem_cons_self⟩)
    rw [(knownRecords_eq_nil_iff out).1 hnone s.line (List.mem_append_right _ hline)] at hmarks
    cases hmarks
  rw [Diagnostic.parse_of_cut hcut] at hread
  obtain ⟨-, rfl⟩ := readSections_eq_ok_iff.1 hread
  rw [hspoken hknown, mem_proper_iff (List.mem_map_of_mem hs)]
  obtain ⟨-, htext⟩ := Header.read?_eq_some_iff.1 s.isHeader
  rw [htext, KnownFailure.marks_text_iff] at hmarks
  constructor
  · rintro ⟨hseverity, hmessage, hproper⟩
    exact ⟨hseverity, hmarks.resolve_right (Bool.eq_false_iff.1 hmessage), hmessage, hproper⟩
  · rintro ⟨hseverity, -, hmessage, hproper⟩
    exact ⟨hseverity, hmessage, hproper⟩

/-- A stage that tells of one known failure on both streams, on the error stream in the code of a
header. -/
def twiceOutput : CommandOutput where
  exitCode := 1
  stdout := "no entrypoint"
  stderr := "error[no entrypoint]: bad"

/-- The section of the error stream there. -/
def twiceSection : Section where
  line := "error[no entrypoint]: bad"
  header := ⟨.error, some "no entrypoint", "bad"⟩
  body := []
  isHeader := by decide +kernel
  noHeader := List.forall_mem_nil _

/-- The failure is told twice by the table, and once more by the compiler. -/
theorem repetitions_of_ofOutput_twice :
    ∃ report, IsCut (Text.lines twiceOutput.stderr) [] [twiceSection] ∧
      ofOutput "cargo build" twiceOutput = .ok report ∧
      ∃ spoken, report.errors = spoken ++ knownRecords twiceOutput ∧
        ¬ (knownRecords twiceOutput).Nodup ∧
        marks twiceSection.line = true ∧ twiceSection.diagnostic ∈ spoken := by
  have hcut : IsCut (Text.lines twiceOutput.stderr) [] [twiceSection] :=
    ⟨List.forall_mem_nil _, by decide +kernel⟩
  have hread : Diagnostic.parse twiceOutput.stderr = .ok [twiceSection.diagnostic] := by
    decide +kernel
  have hreport := ofOutput_eq "cargo build" hread
  have hmarks : marks twiceSection.line = true := by decide +kernel
  obtain ⟨spoken, herrors, hnodup, hspoken⟩ := repetitions_of_ofOutput hcut hreport
  refine ⟨_, hcut, hreport, spoken, herrors, ?_, hmarks, ?_⟩
  · rw [hnodup]
    intro hpairwise
    have hlines : bothLines twiceOutput = ["no entrypoint".toList, twiceSection.line] := by
      decide +kernel
    rw [hlines, List.pairwise_pair] at hpairwise
    refine hpairwise ⟨KnownFailure.entrypoint, by simp [KnownFailure.all], by decide +kernel,
      by decide +kernel, fun h => ?_⟩
    decide +kernel
  · refine (hspoken twiceSection (List.mem_singleton_self _) hmarks).2 ?_
    exact ⟨rfl, ⟨_, rfl, by decide +kernel⟩, by decide +kernel, by decide +kernel⟩

end StageReport

end ContractBuild
