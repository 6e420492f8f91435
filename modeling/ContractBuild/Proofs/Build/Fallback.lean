import ContractBuild.Proofs.Build.Sandbox
import ContractBuild.Proofs.Diagnostic.RoundTrip

/-!
# What the sandbox makes of compiler output

Without a toolchain the error stream of the sandbox is read in a reduced way: whether the source
compiles is told by one word anywhere in it, and what is reported are whole lines. That reading knows
of no sections, but it misses no diagnostic that the full reader finds: the header of each one
mentions its severity (`mentions_of_read?`) and so is one of the lines that are reported, in the same
order.

Main statement: `Sandbox.reports_headerLines`.
-/

set_option autoImplicit false

namespace ContractBuild

open Text (strip)

/-! ## Lines and texts -/

namespace Text

/-- The first line of a text is the beginning of it, and each line stands in it without a gap. -/
theorem prefix_and_infix_lines (t : Text) :
    (∀ line ∈ (lines t).head?, line <+: t) ∧ ∀ line ∈ lines t, line <:+: t := by
  -- what is behind a line end is a text of its own, whose lines are not moved
  have hbehind : ∀ {t u : Text}, t <:+ u → (∀ line ∈ lines t, line <:+: t) →
      (∀ line ∈ ([] :: lines t).head?, line <+: u) ∧ ∀ line ∈ [] :: lines t, line <:+: u := by
    intro t u hsuffix hlines
    refine ⟨?_, List.forall_mem_cons.2 ⟨List.nil_infix, fun line hline => ?_⟩⟩
    · rintro line ⟨⟩
      exact List.nil_prefix
    · exact (hlines line hline).trans hsuffix.isInfix
  induction t using linesInduction with
  | nil => exact ⟨by rintro line ⟨⟩, List.forall_mem_nil _⟩
  | crlf t ih =>
    rw [lines_crlf]
    exact hbehind ((List.suffix_cons _ _).trans (List.suffix_cons _ _)) ih.2
  | separator c t hc hr ih =>
    rw [lines_cons_separator t hc hr]
    exact hbehind (List.suffix_cons _ _) ih.2
  | other c t hc ih =>
    obtain ⟨hfirst, hlines⟩ := ih
    rw [lines_cons_other t hc]
    cases hl : lines t with
    | nil =>
      have hchar : [c] <+: c :: t := ⟨t, rfl⟩
      refine ⟨?_, List.forall_mem_singleton.2 hchar.isInfix⟩
      rintro line ⟨⟩
      exact hchar
    | cons first more =>
      rw [hl] at hfirst hlines
      have hline : c :: first <+: c :: t := List.cons_prefix_cons.2 ⟨rfl, hfirst first rfl⟩
      refine ⟨?_, List.forall_mem_cons.2 ⟨hline.isInfix, fun line hmem => ?_⟩⟩
      · rintro line ⟨⟩
        exact hline
      · exact (hlines line (List.mem_cons_of_mem _ hmem)).trans (List.suffix_cons _ _).isInfix

theorem infix_of_mem_lines {t line : Text} (h : line ∈ lines t) : line <:+: t :=
  (prefix_and_infix_lines t).2 line h

end Text

/-! ## Headers among the lines that mention a severity -/

/-- A header mentions its severity, with or without a code. -/
theorem mentions_of_read? {line : Text} {header : Header} (h : Header.read? line = some header) :
    mentions header.severity.name line = true := by
  obtain ⟨-, rfl⟩ := Header.read?_eq_some_iff.1 h
  obtain ⟨severity, code, message⟩ := header
  rw [mentions, Bool.or_eq_true, Text.contains_iff, Text.contains_iff]
  cases code with
  | none =>
    exact .inl ⟨[], ' ' :: message, by simp [Header.text, Header.writtenCode]⟩
  | some code =>
    exact .inr ⟨[], code ++ (']' :: (": " ++ message)), by simp [Header.text, Header.writtenCode]⟩

/-- The header lines of the sections are among the lines, in order. -/
theorem IsCut.map_line_sublist {ls before : List Text} {sections : List Section}
    (h : IsCut ls before sections) : (sections.map Section.line).Sublist ls := by
  obtain ⟨-, rfl⟩ := h
  refine List.Sublist.trans ?_ (List.sublist_append_right before _)
  induction sections with
  | nil => exact .slnil
  | cons s rest ih =>
    rw [List.map_cons, List.flatMap_cons]
    exact (List.singleton_sublist.2 List.mem_cons_self).append ih

/-- The header lines of the diagnostics of a severity, without the blanks at their ends. -/
def headerLines (severity : Severity) (sections : List Section) : List Text :=
  (sections.filter (·.diagnostic.severity = severity)).map fun s => strip s.line

/-- The reduced reading reports the header line of each diagnostic that the full one finds. -/
theorem headerLines_sublist {output : Text} {before : List Text} {sections : List Section}
    (h : IsCut (Text.lines output) before sections) (severity : Severity) :
    (headerLines severity sections).Sublist
      ((Diagnostic.parseFlat severity output).map (·.message)) := by
  -- a filter keeps the order, and of the header lines it drops none
  let told := (sections.filter (·.diagnostic.severity = severity)).map Section.line
  have hlines : told.Sublist (Text.lines output) :=
    (List.filter_sublist.map _).trans h.map_line_sublist
  have hmentions : told.filter (mentions severity.name) = told := by
    refine List.filter_eq_self.2 fun line hline => ?_
    obtain ⟨s, hs, rfl⟩ := List.mem_map.1 hline
    obtain rfl : s.header.severity = severity := of_decide_eq_true (List.mem_filter.1 hs).2
    exact mentions_of_read? s.isHeader
  have hstripped := (hlines.filter (mentions severity.name)).map strip
  rw [hmentions] at hstripped
  rw [headerLines, Diagnostic.parseFlat, List.map_map]
  rwa [List.map_map] at hstripped

/-! ## What a remote compilation reports -/

/-- The warnings that a result carries. -/
def BuildResult.warnings : BuildResult → List Diagnostic
  | success s => s.warnings
  | failure f => f.warnings

namespace Sandbox

open Run

theorem compileFailure_kind (errors : List Diagnostic) (stderr : Text) :
    (compileFailure errors stderr).kind = .diagnostics := by
  cases errors <;> rfl

theorem compileFailure_warnings (errors : List Diagnostic) (stderr : Text) :
    (compileFailure errors stderr).warnings = Diagnostic.parseFlat .warning stderr := by
  cases errors <;> rfl

/-- The errors of the failure are those that are given, if there are any. -/
theorem compileFailure_errors {errors : List Diagnostic} (h : errors ≠ []) (stderr : Text) :
    (compileFailure errors stderr).errors = errors := by
  cases errors with
  | nil => exact absurd rfl h
  | cons e errors => rfl

/-- What is judged is a failure if the error stream mentions an error, and else a success; its
warnings are those of the error stream. -/
theorem judge_text (source stderr : Text) {stdout : Json} (hstdout : ∃ t, stdout = .text t)
    (h : Host) :
    ∃ result, ((judge source stdout (.text stderr)).on h).1 = .ok result ∧
      result.warnings = Diagnostic.parseFlat .warning stderr ∧
      (Text.contains "error" stderr = true →
        result = .failure (compileFailure (Diagnostic.parseFlat .error stderr) stderr)) := by
  rw [on_judge_text]
  split
  · exact ⟨_, rfl, compileFailure_warnings _ stderr, fun _ => rfl⟩
  · rename_i hmention
    obtain ⟨t, rfl⟩ := hstdout
    obtain ⟨p, hp⟩ := placeholder_text source t
    rw [hp]
    exact ⟨_, rfl, rfl, fun h => absurd h hmention⟩

/-- The answer of the service is judged by its two streams. -/
theorem on_compile_body {h : Host} {reason : Option Text} {fields : List (Text × Json)}
    (hreply : h.nextReply = .answered 200 reason (.ok (.object fields))) (s : Settings)
    (source : Text) :
    ∃ h', ((compile s source).on h).1 =
      ((judge source (output fields "stdout") (output fields "stderr")).on h').1 := by
  have hc := concluded_compile s source h
  rw [hreply] at hc
  generalize ((compile s source).on h).1 = answer at hc
  cases hc with
  | unusable hr => exact absurd hr not_unusable_body
  | judged fields h' => exact ⟨h', rfl⟩

/-- An error stream with the header of an error mentions an error. -/
theorem contains_error_of_mem {stderr line : Text} {header : Header}
    (hline : line ∈ Text.lines stderr) (hread : Header.read? line = some header)
    (hseverity : header.severity = .error) : Text.contains "error" stderr = true := by
  obtain ⟨-, rfl⟩ := Header.read?_eq_some_iff.1 hread
  have hname : header.severity.name <:+: header.text := (List.prefix_append _ _).isInfix
  rw [hseverity] at hname
  exact Text.contains_iff.2 (hname.trans (Text.infix_of_mem_lines hline))

/-- When the service answers with texts, whatever the full reader finds on its error stream is
reported: the header line of each warning is the message of a warning of the result, and if there is
an error, the source fails to compile, with the header line of each error as the message of an
error; all in the same order. -/
theorem reports_headerLines (s : Settings) (source : Text) {h : Host} {reason : Option Text}
    {fields : List (Text × Json)} {stderr : Text} {ds : List Diagnostic} {before : List Text}
    {sections : List Section}
    (hreply : h.nextReply = .answered 200 reason (.ok (.object fields)))
    (hstdout : Textual fields "stdout") (hstderr : output fields "stderr" = .text stderr)
    (hread : Diagnostic.parse stderr = .ok ds) (hcut : IsCut (Text.lines stderr) before sections) :
    ds = sections.map Section.diagnostic ∧
      ∃ result, ((compile s source).on h).1 = .ok result ∧
        (headerLines .warning sections).Sublist (result.warnings.map (·.message)) ∧
        ((∃ d ∈ ds, d.isError = true) → ∃ f, result = .failure f ∧ f.kind = .diagnostics ∧
          (headerLines .error sections).Sublist (f.errors.map (·.message))) := by
  rw [Diagnostic.parse_of_cut hcut] at hread
  obtain ⟨-, rfl⟩ := readSections_eq_ok_iff.1 hread
  obtain ⟨h', hcompile⟩ := on_compile_body hreply s source
  rw [hstderr] at hcompile
  obtain ⟨result, hresult, hwarnings, hfails⟩ :=
    judge_text source stderr (textual_iff.1 hstdout) h'
  refine ⟨rfl, result, hcompile.trans hresult, ?_, ?_⟩
  · rw [hwarnings]
    exact headerLines_sublist hcut .warning
  · rintro ⟨d, hd, herror⟩
    obtain ⟨found, hsection, rfl⟩ := List.mem_map.1 hd
    have hline : found.line ∈ Text.lines stderr :=
      hcut.map_line_sublist.subset (List.mem_map_of_mem hsection)
    have hseverity : found.header.severity = .error := of_decide_eq_true herror
    have hmentions := contains_error_of_mem hline found.isHeader hseverity
    -- the header itself is reported, so the message for failures without a line does not stand in
    have hreported := headerLines_sublist hcut .error
    have hne : Diagnostic.parseFlat .error stderr ≠ [] := by
      intro hnone
      rw [hnone, List.map_nil, List.sublist_nil, headerLines, List.map_eq_nil_iff,
        List.filter_eq_nil_iff] at hreported
      exact hreported found hsection herror
    refine ⟨_, hfails hmentions, compileFailure_kind _ stderr, ?_⟩
    rw [compileFailure_errors hne]
    exact hreported

/-- The error stream of a source with a warning and an error. -/
def warnedStderr : Text :=
  "warning: unused\nnote\nerror[E1]: bad \ndetail\n"

/-- A service that answers with that error stream and no output. -/
def warnedHost : Host where
  replies := [.answered 200 none (.ok (.object [("stdout", .null), ("stderr", .text warnedStderr)]))]

/-- The section of the warning. -/
def warnedSection : Section where
  line := "warning: unused"
  header := { severity := .warning, code := none, message := "unused" }
  body := ["note"]
  isHeader := by decide +kernel
  noHeader := by decide +kernel

/-- The section of the error, which is coded. -/
def failedSection : Section where
  line := "error[E1]: bad "
  header := { severity := .error, code := some "E1", message := "bad " }
  body := ["detail"]
  isHeader := by decide +kernel
  noHeader := by decide +kernel

/-- Both headers are reported, the one with a code without the blank at its end. -/
theorem reports_headerLines_warned :
    ∃ result, ((compile {} "fn main() {}").on warnedHost).1 = .ok result ∧
      ["warning: unused".toList].Sublist (result.warnings.map (·.message)) ∧
      ∃ f, result = .failure f ∧ f.kind = .diagnostics ∧
        ["error[E1]: bad".toList].Sublist (f.errors.map (·.message)) := by
  have hstdout : Textual [("stdout", .null), ("stderr", .text warnedStderr)] "stdout" :=
    textual_iff.2 ⟨[], rfl⟩
  have hread : Diagnostic.parse warnedStderr =
      .ok [.warning "unused", { Diagnostic.error "bad" with code := some "E1" }] := by
    decide +kernel
  have hcut : IsCut (Text.lines warnedStderr) [] [warnedSection, failedSection] :=
    ⟨List.forall_mem_nil _, by decide +kernel⟩
  obtain ⟨-, result, hresult, hwarnings, herrors⟩ :=
    reports_headerLines {} "fn main() {}" (h := warnedHost) rfl hstdout rfl hread hcut
  exact ⟨result, hresult, hwarnings, herrors (by decide)⟩

end Sandbox

end ContractBuild
