import ContractBuild.Diagnostic.Flat
import ContractBuild.Proofs.Build.Stage

/-!
# Outputs one after the other

The two streams of a stage are read as one text, with a line feed between them. Line ends may meet
there: a carriage return at the end of the first text goes with the line feed, another line end
leaves an empty line behind. No reader makes anything of an empty line, so what counts are the lines
that are not empty (`Text.filledLines`), and these are just those of the two texts.

What is read line by line is therefore the one and then the other. A reader with an open report goes
on with it in the second text, unless that begins with a header of its own.

Main statement: `Diagnostic.reads_append_newline`.
-/

set_option autoImplicit false

namespace ContractBuild

open Text (TooManyDigits)

/-! ## Lines that are not empty -/

/-- The lines of a text that are not empty. -/
def Text.filledLines (t : Text) : List Text :=
  (lines t).filter (· ≠ [])

namespace Text

theorem mem_filledLines_iff {t line : Text} :
    line ∈ filledLines t ↔ line ∈ lines t ∧ line ≠ [] := by
  rw [filledLines, List.mem_filter, decide_eq_true_eq]

/-- Whatever line ends meet at a line feed, it neither makes nor joins a line that is not empty. -/
theorem filledLines_append_newline (t u : Text) :
    filledLines (t ++ '\n' :: u) = filledLines t ++ filledLines u := by
  obtain ⟨blank, hblank, hlines⟩ := lines_append_newline_append t u
  have hnone : blank.filter (· ≠ []) = [] := by
    rcases hblank with rfl | rfl <;> rfl
  rw [filledLines, hlines, List.filter_append, List.filter_append, hnone, List.append_nil]
  rfl

end Text

/-! ## The reader and empty lines -/

/-- An empty line is of no kind. -/
theorem Reading.step_nil (r : Reading) : r.step [] = .ok r := by
  obtain ⟨draft, finished⟩ := r
  cases draft <;> rfl

/-- The reader passes over the empty lines. -/
theorem foldlM_step_filled (ls : List Text) (r : Reading) :
    (ls.filter (· ≠ [])).foldlM Reading.step r = ls.foldlM Reading.step r := by
  induction ls generalizing r with
  | nil => rfl
  | cons line rest ih =>
    cases line with
    | nil =>
      rw [List.filter_cons_of_neg (by simp), List.foldlM_cons, Reading.step_nil]
      exact ih r
    | cons c line =>
      rw [List.filter_cons_of_pos (by simp), List.foldlM_cons, List.foldlM_cons]
      cases Reading.step r (c :: line) with
      | error e => rfl
      | ok r' => exact ih r'

/-! ## Sections of both outputs -/

/-- Lines that begin with a header are a list of sections. -/
theorem IsCut.before_eq_nil {line : Text} {rest before : List Text} {sections : List Section}
    (h : IsCut (line :: rest) before sections) (hline : (Header.read? line).isSome = true) :
    before = [] := by
  obtain ⟨header, hread⟩ := Option.isSome_iff_exists.1 hline
  exact (h.cons_of_some hread).1

/-- Sections that follow lines are those of the lines and then they themselves. -/
theorem IsCut.append_sections {ls ls' before : List Text} {sections sections' : List Section}
    (h : IsCut ls before sections) (h' : IsCut ls' [] sections') :
    IsCut (ls ++ ls') before (sections ++ sections') := by
  obtain ⟨hbefore, rfl⟩ := h
  obtain ⟨-, rfl⟩ := h'
  refine ⟨hbefore, ?_⟩
  rw [List.flatMap_append, List.nil_append, List.append_assoc]

/-- Sections are read one after the other, and the first number that is too long stops the
reading. -/
theorem readSections_append (sections sections' : List Section) :
    readSections (sections ++ sections') = do
      let ds ← readSections sections
      let ds' ← readSections sections'
      return ds ++ ds' := by
  unfold readSections
  rw [List.findSome?_append, List.map_append]
  cases sections.findSome? Section.tooLong? with
  | some e => rfl
  | none =>
    cases sections'.findSome? Section.tooLong? with
    | some e => rfl
    | none => rfl

namespace Diagnostic

/-- However the lines that are not empty are cut into sections, the output is read section by
section. -/
theorem parse_of_filledCut {output : Text} {before : List Text} {sections : List Section}
    (h : IsCut (Text.filledLines output) before sections) :
    parse output = readSections sections := by
  rw [parse, ← foldlM_step_filled]
  show Except.map _ ((Text.filledLines output).foldlM Reading.step {}) = _
  rw [h.eq, List.foldlM_append, foldlM_step_before h.noHeader]
  show Except.map _ ((sections.flatMap Section.lines).foldlM Reading.step {}) = _
  rw [foldlM_step_sections]
  cases readSections sections <;> rfl

/-! ## Reading both outputs -/

/-- An empty line mentions no severity. -/
theorem not_mentions_nil (severity : Severity) : mentions severity.name [] = false := by
  cases severity <;> rfl

theorem parseFlat_append_newline (severity : Severity) (output output' : Text) :
    parseFlat severity (output ++ '\n' :: output') =
      parseFlat severity output ++ parseFlat severity output' := by
  have hfilled : ∀ t : Text, (Text.lines t).filter (mentions severity.name) =
      (Text.filledLines t).filter (mentions severity.name) := by
    intro t
    rw [Text.filledLines, List.filter_filter]
    refine List.filter_congr fun line _ => ?_
    cases line with
    | nil => rw [not_mentions_nil, Bool.false_and]
    | cons c line => simp
  simp only [parseFlat, hfilled]
  rw [Text.filledLines_append_newline, List.filter_append, List.map_append]

/-- A reader of sections takes up a second output that begins with a header as if it stood alone:
the report that the first one leaves open is finished as it is at an end. -/
theorem parse_append_newline (output output' : Text) {line : Text}
    (hfirst : (Text.lines output').head? = some line)
    (hline : (Header.read? line).isSome = true) :
    parse (output ++ '\n' :: output') = do
      let ds ← parse output
      let ds' ← parse output'
      return ds ++ ds' := by
  obtain ⟨before, sections, hcut⟩ := exists_cut (Text.filledLines output)
  obtain ⟨before', sections', hcut'⟩ := exists_cut (Text.filledLines output')
  -- the first line is not empty, as it is a header, so it is also the first of those that are not
  have hne : line ≠ [] := by
    rintro rfl
    cases hline
  obtain ⟨rest, hlines⟩ : ∃ rest, Text.lines output' = line :: rest :=
    List.head?_eq_some_iff.1 hfirst
  have hfilled : Text.filledLines output' = line :: rest.filter (· ≠ []) := by
    rw [Text.filledLines, hlines, List.filter_cons_of_pos (by simpa using hne)]
  have hnone : before' = [] := by
    rw [hfilled] at hcut'
    exact hcut'.before_eq_nil hline
  subst hnone
  have hboth : IsCut (Text.filledLines (output ++ '\n' :: output')) before
      (sections ++ sections') := by
    rw [Text.filledLines_append_newline]
    exact hcut.append_sections hcut'
  rw [parse_of_filledCut hboth, readSections_append, ← parse_of_filledCut hcut,
    ← parse_of_filledCut hcut']

/-- Two outputs with a line feed between them, whatever they end and begin with, are read line by
line as the one and then the other. So they are section by section if the second one begins with a
header; in particular they are refused together exactly if one of them is refused. -/
theorem reads_append_newline (output output' : Text) :
    parseKnown (output ++ '\n' :: output') = parseKnown output ++ parseKnown output' ∧
      (∀ severity, parseFlat severity (output ++ '\n' :: output') =
        parseFlat severity output ++ parseFlat severity output') ∧
      ∀ line, (Text.lines output').head? = some line → (Header.read? line).isSome = true →
        parse (output ++ '\n' :: output') = do
          let ds ← parse output
          let ds' ← parse output'
          return ds ++ ds' :=
  ⟨parseKnown_append_newline output output',
    fun severity => parseFlat_append_newline severity output output',
    fun _ hfirst hline => parse_append_newline output output' hfirst hline⟩

/-- A carriage return at the end of the first output goes with the line feed; the report that is
open there is finished by the header on the first line of the second output. -/
theorem reads_append_newline_return :
    let output : Text := "warning: unused\n --> f:1:2\r"
    let output' : Text := "error: no entrypoint\n --> f:3:4"
    (Text.lines output').head? = some "error: no entrypoint".toList ∧
      (Header.read? "error: no entrypoint").isSome = true ∧
      parse (output ++ '\n' :: output') =
        .ok [{ Diagnostic.warning "unused" with location := some ⟨"f", 1, 2⟩ },
          { Diagnostic.error "no entrypoint" with location := some ⟨"f", 3, 4⟩ }] := by
  intro output output'
  have hfirst : (Text.lines output').head? = some "error: no entrypoint".toList := by decide +kernel
  have hline : (Header.read? "error: no entrypoint").isSome = true := by decide +kernel
  refine ⟨hfirst, hline, ?_⟩
  rw [(reads_append_newline output output').2.2 _ hfirst hline]
  decide +kernel

end Diagnostic

end ContractBuild
