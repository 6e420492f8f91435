import ContractBuild.Proofs.Diagnostic.Parser

/-!
# Output as a list of sections

A section of the output is a header line and the lines after it that are no headers. Every list of
lines is cut into lines before the first header, which belong to no section, and sections
(`exists_cut`); there is only one way to cut it (`cut_unique`).

A section tells all about its diagnostic by itself (`Section.diagnostic`): the location is that of
its first arrow, the suggestion that of its last help line, and the snippet is made of all its
gutter lines. Reading the output, which goes through the lines once with one open report, gives
the same as reading section by section (`Diagnostic.parse_of_cut`).

Main statement: `Diagnostic.parse_eq_readSections`.
-/

set_option autoImplicit false

namespace ContractBuild

open Text (strip digitsValue number TooManyDigits digitLimit)

/-! ## Sections -/

/-- A header line, and the lines up to the next header or the end. -/
structure Section where
  line : Text
  header : Header
  body : List Text
  isHeader : Header.read? line = some header
  noHeader : ∀ l ∈ body, Header.read? l = none

namespace Section

/-- The lines of a section. -/
def lines (s : Section) : List Text :=
  s.line :: s.body

/-- The arrows of a section. -/
def arrows (s : Section) : List Arrow :=
  s.body.filterMap Arrow.read?

/-- The texts of the help lines of a section. -/
def helps (s : Section) : List Text :=
  s.body.filterMap helpText?

/-- The gutter lines of a section. -/
def gutter (s : Section) : List Text :=
  s.body.filter isGutter

end Section

/-- The place that an arrow points to. -/
def Arrow.location (a : Arrow) : Location :=
  ⟨strip a.file, digitsValue a.line, digitsValue a.column⟩

/-- The first number of an arrow that is too long to be read. -/
def Arrow.tooLong? (a : Arrow) : Option TooManyDigits :=
  ([a.line, a.column].find? (digitLimit < ·.length)).map fun digits => ⟨digits.length⟩

/-- The gutter lines as they are, if there are any. -/
def snippetOf (gutter : List Text) : Option Text :=
  if gutter.isEmpty then none else some (Text.join ['\n'] gutter)

namespace Section

/-- The diagnostic of a section: its location is that of the first arrow and its suggestion is that
of the last help line. -/
def diagnostic (s : Section) : Diagnostic where
  severity := s.header.severity
  code := s.header.code
  message := strip s.header.message
  location := s.arrows.head?.map Arrow.location
  suggestion := s.helps.getLast?.map strip
  snippet := snippetOf s.gutter

/-- The first number of the first arrow that is too long to be read. -/
def tooLong? (s : Section) : Option TooManyDigits :=
  s.arrows.head?.bind Arrow.tooLong?

end Section

/-- The diagnostics of the sections, unless the first arrow of one of them has a number that is too
long. -/
def readSections (sections : List Section) : Except TooManyDigits (List Diagnostic) :=
  match sections.findSome? Section.tooLong? with
  | some e => .error e
  | none => .ok (sections.map Section.diagnostic)

/-! ## Cutting -/

/-- The lines are cut into those before the first header and sections. -/
structure IsCut (lines before : List Text) (sections : List Section) : Prop where
  noHeader : ∀ l ∈ before, Header.read? l = none
  eq : lines = before ++ sections.flatMap Section.lines

theorem exists_cut (lines : List Text) : ∃ before sections, IsCut lines before sections := by
  induction lines with
  | nil => exact ⟨[], [], List.forall_mem_nil _, rfl⟩
  | cons line rest ih =>
    obtain ⟨before, sections, hbefore, rfl⟩ := ih
    cases hread : Header.read? line with
    | none => exact ⟨line :: before, sections, List.forall_mem_cons.2 ⟨hread, hbefore⟩, rfl⟩
    | some header =>
      -- What stood before the first header is the body of the section of this line.
      exact ⟨[], ⟨line, header, before, hread, hbefore⟩ :: sections, List.forall_mem_nil _, rfl⟩

theorem IsCut.cons_of_none {line : Text} {rest before : List Text} {sections : List Section}
    (h : IsCut (line :: rest) before sections) (hread : Header.read? line = none) :
    ∃ before', before = line :: before' ∧ IsCut rest before' sections := by
  obtain ⟨hbefore, heq⟩ := h
  cases before with
  | cons first before =>
    obtain ⟨rfl, rfl⟩ := List.cons.inj heq
    exact ⟨before, rfl, (List.forall_mem_cons.1 hbefore).2, rfl⟩
  | nil =>
    cases sections with
    | nil => cases heq
    | cons s sections =>
      obtain ⟨rfl, -⟩ := List.cons.inj heq
      rw [s.isHeader] at hread
      cases hread

theorem IsCut.cons_of_some {line : Text} {rest before : List Text} {sections : List Section}
    {header : Header} (h : IsCut (line :: rest) before sections)
    (hread : Header.read? line = some header) :
    before = [] ∧ ∃ s sections', sections = s :: sections' ∧ s.line = line ∧
      IsCut rest s.body sections' := by
  obtain ⟨hbefore, heq⟩ := h
  cases before with
  | cons first before =>
    obtain ⟨rfl, -⟩ := List.cons.inj heq
    rw [(List.forall_mem_cons.1 hbefore).1] at hread
    cases hread
  | nil =>
    cases sections with
    | nil => cases heq
    | cons s sections =>
      obtain ⟨rfl, rfl⟩ := List.cons.inj heq
      exact ⟨rfl, s, sections, rfl, rfl, s.noHeader, rfl⟩

/-- Sections with the same lines are the same. -/
theorem Section.ext_lines {s s' : Section} (hline : s.line = s'.line) (hbody : s.body = s'.body) :
    s = s' := by
  obtain ⟨line, header, body, hheader, hbodies⟩ := s
  obtain ⟨line', header', body', hheader', hbodies'⟩ := s'
  obtain rfl : line = line' := hline
  obtain rfl : body = body' := hbody
  obtain rfl := Option.some.inj (hheader.symm.trans hheader')
  rfl

theorem cut_unique {lines before before' : List Text} {sections sections' : List Section}
    (h : IsCut lines before sections) (h' : IsCut lines before' sections') :
    before' = before ∧ sections' = sections := by
  induction lines generalizing before before' sections sections' with
  | nil =>
    have hnil : ∀ {before sections}, IsCut [] before sections → before = [] ∧ sections = [] := by
      rintro before sections ⟨-, heq⟩
      obtain ⟨rfl, hsections⟩ := List.append_eq_nil_iff.1 heq.symm
      cases sections with
      | nil => exact ⟨rfl, rfl⟩
      | cons s sections => cases hsections
    obtain ⟨rfl, rfl⟩ := hnil h
    exact hnil h'
  | cons line rest ih =>
    -- Whether the line is a header decides for both cuts how they begin.
    cases hread : Header.read? line with
    | none =>
      obtain ⟨before, rfl, hrest⟩ := h.cons_of_none hread
      obtain ⟨before', rfl, hrest'⟩ := h'.cons_of_none hread
      obtain ⟨rfl, rfl⟩ := ih hrest hrest'
      exact ⟨rfl, rfl⟩
    | some header =>
      obtain ⟨rfl, s, sections, rfl, hs, hrest⟩ := h.cons_of_some hread
      obtain ⟨rfl, s', sections', rfl, hs', hrest'⟩ := h'.cons_of_some hread
      obtain ⟨hbody, rfl⟩ := ih hrest hrest'
      exact ⟨rfl, by rw [Section.ext_lines (hs'.trans hs.symm) hbody]⟩

/-! ## Reading section by section -/

theorem Draft.locate_eq (a : Arrow) :
    Draft.locate a = match a.tooLong? with
      | some e => .error e
      | none => .ok a.location := by
  have hnumber : ∀ t : Text, number t =
      if digitLimit < t.length then .error ⟨t.length⟩ else .ok (digitsValue t) := by
    intro t
    unfold Text.number
    by_cases ht : t.length ≤ digitLimit
    · rw [if_pos ht, if_neg (by omega)]
    · rw [if_neg ht, if_pos (by omega)]
  unfold Draft.locate Arrow.tooLong?
  rw [hnumber, hnumber]
  by_cases hl : digitLimit < a.line.length
  · simp [hl, bind, Except.bind]
  · by_cases hc : digitLimit < a.column.length
    · simp [hl, hc, bind, Except.bind]
    · simp [hl, hc, bind, Except.bind, pure, Except.pure, Arrow.location]

/-- The location of a report that goes on with these arrows: the one it has, or else that of the
first arrow. -/
def Draft.locationAfter (d : Draft) (arrows : List Arrow) :
    Except TooManyDigits (Option Location) :=
  match d.location, arrows with
  | some l, _ => .ok (some l)
  | none, [] => .ok none
  | none, a :: _ => (Draft.locate a).map some

/-- What lines that are no headers make of a report. -/
theorem Draft.foldlM_add (body : List Text) (d : Draft) :
    body.foldlM Draft.add d =
      (d.locationAfter (body.filterMap Arrow.read?)).map fun location =>
        { d with
          location
          suggestion := ((body.filterMap helpText?).getLast?.map strip).or d.suggestion
          gutter := (body.filter isGutter).reverse ++ d.gutter } := by
  -- By induction on the lines for every report; the kind of a line decides which part it goes into,
  -- and since the kinds are apart it is of no account for the other parts.
  induction body generalizing d with
  | nil =>
    obtain ⟨header, location, suggestion, gutter⟩ := d
    cases location <;> rfl
  | cons line rest ih =>
    rw [List.foldlM_cons, Draft.add]
    cases harrow : Arrow.read? line with
    | some a =>
      obtain ⟨-, hhelp, hgutter⟩ := Arrow.apart harrow
      rw [List.filterMap_cons_some harrow, List.filterMap_cons_none hhelp,
        List.filter_cons_of_neg (by simp [hgutter])]
      cases hlocation : d.location with
      | some l =>
        -- A later arrow is passed over, even if its numbers are too long.
        simp only [bind, Except.bind]
        rw [ih]
        simp only [locationAfter, hlocation]
      | none =>
        simp only [locationAfter, hlocation]
        cases Draft.locate a with
        | error e => rfl
        | ok l =>
          simp only [bind, Except.bind, Except.map]
          rw [ih]
          rfl
    | none =>
      rw [List.filterMap_cons_none harrow]
      cases hhelp : helpText? line with
      | some t =>
        obtain ⟨-, hgutter⟩ := apart_of_helpText? hhelp
        rw [List.filterMap_cons_some hhelp, List.filter_cons_of_neg (by simp [hgutter])]
        simp only [bind, Except.bind]
        -- This text remains only if no help line comes after it.
        rw [ih, List.getLast?_cons]
        cases (rest.filterMap helpText?).getLast? <;> rfl
      | none =>
        rw [List.filterMap_cons_none hhelp]
        simp only [bind, Except.bind]
        rw [ih]
        cases hgutter : isGutter line with
        | true =>
          rw [List.filter_cons_of_pos hgutter, List.reverse_cons, List.append_assoc]
          rfl
        | false =>
          rw [List.filter_cons_of_neg (by simp [hgutter])]
          rfl

namespace Section

/-- The report that a section is read into. -/
def draft (s : Section) : Draft where
  header := s.header
  location := s.arrows.head?.map Arrow.location
  suggestion := s.helps.getLast?.map strip
  gutter := s.gutter.reverse

theorem finish_draft (s : Section) : s.draft.finish = s.diagnostic := by
  simp only [Draft.finish, draft, diagnostic, snippetOf, List.isEmpty_reverse, List.reverse_reverse]

theorem foldlM_add (s : Section) :
    s.body.foldlM Draft.add { header := s.header } = match s.tooLong? with
      | some e => .error e
      | none => .ok s.draft := by
  rw [Draft.foldlM_add, draft, tooLong?]
  show Except.map _ (Draft.locationAfter _ s.arrows) = _
  have hlast : (s.helps.getLast?.map strip).or none = s.helps.getLast?.map strip := Option.or_none
  cases harrows : s.arrows with
  | nil =>
    simp only [Draft.locationAfter, Except.map, List.head?_nil, Option.bind_none, Option.map_none]
    rw [← hlast, gutter, List.append_nil]
    rfl
  | cons a rest =>
    simp only [Draft.locationAfter, List.head?_cons, Option.bind_some, Option.map_some]
    rw [Draft.locate_eq]
    cases a.tooLong? with
    | some e => rfl
    | none =>
      simp only [Except.map]
      rw [← hlast, gutter, List.append_nil]
      rfl

/-- Lines that are no headers go into the open report. -/
theorem foldlM_step_of_noHeader {body : List Text} (hbody : ∀ l ∈ body, Header.read? l = none)
    (d : Draft) (finished : List Diagnostic) :
    body.foldlM Reading.step ⟨some d, finished⟩ =
      (body.foldlM Draft.add d).map fun d => ⟨some d, finished⟩ := by
  induction body generalizing d with
  | nil => rfl
  | cons line rest ih =>
    obtain ⟨hline, hrest⟩ := List.forall_mem_cons.1 hbody
    rw [List.foldlM_cons, List.foldlM_cons, Reading.step, hline]
    cases hadd : d.add line with
    | error e => simp only [hadd, bind, Except.bind, Except.map]
    | ok d' =>
      simp only [hadd, bind, Except.bind, Except.map]
      exact ih hrest d'

/-- The reader finishes the open report at a section and takes the section in. -/
theorem foldlM_step (s : Section) (r : Reading) :
    s.lines.foldlM Reading.step r = match s.tooLong? with
      | some e => .error e
      | none => .ok ⟨some s.draft, r.close.finished⟩ := by
  rw [lines, List.foldlM_cons, Reading.step, s.isHeader]
  show s.body.foldlM Reading.step ⟨some { header := s.header }, r.close.finished⟩ = _
  rw [foldlM_step_of_noHeader s.noHeader, foldlM_add]
  cases s.tooLong? <;> rfl

end Section

theorem Reading.result_open (d : Draft) (finished : List Diagnostic) :
    Reading.result ⟨some d, finished⟩ = finished.reverse ++ [d.finish] := by
  rw [Reading.result, Reading.close, List.reverse_cons]

/-- Section after section: the diagnostics are added to those that were read before. -/
theorem foldlM_step_sections (sections : List Section) (r : Reading) :
    ((sections.flatMap Section.lines).foldlM Reading.step r).map Reading.result =
      (readSections sections).map (r.result ++ ·) := by
  induction sections generalizing r with
  | nil => simp [readSections, Except.map, pure, Except.pure]
  | cons s rest ih =>
    rw [List.flatMap_cons, List.foldlM_append, s.foldlM_step]
    cases hs : s.tooLong? with
    | some e => simp [readSections, hs, bind, Except.bind, Except.map]
    | none =>
      simp only [bind, Except.bind]
      -- The open report of this section is finished by whatever follows, be it nothing.
      rw [ih, Reading.result_open, s.finish_draft]
      have hresult : r.close.finished.reverse = r.result := rfl
      rw [hresult]
      cases hrest : rest.findSome? Section.tooLong? with
      | some e => simp [readSections, hs, hrest, Except.map]
      | none => simp [readSections, hs, hrest, Except.map]

/-- Lines before the first header are passed over. -/
theorem foldlM_step_before {before : List Text} (h : ∀ l ∈ before, Header.read? l = none) :
    before.foldlM Reading.step {} = .ok {} := by
  induction before with
  | nil => rfl
  | cons line rest ih =>
    obtain ⟨hline, hrest⟩ := List.forall_mem_cons.1 h
    rw [List.foldlM_cons, Reading.step, hline]
    exact ih hrest

namespace Diagnostic

/-- However the lines of an output are cut into sections, the output is read section by section. -/
theorem parse_of_cut {output : Text} {before : List Text} {sections : List Section}
    (h : IsCut (Text.lines output) before sections) : parse output = readSections sections := by
  rw [parse, h.eq, List.foldlM_append, foldlM_step_before h.noHeader]
  show Except.map _ ((sections.flatMap Section.lines).foldlM Reading.step {}) = _
  rw [foldlM_step_sections]
  cases readSections sections <;> rfl

end Diagnostic

theorem Arrow.tooLong?_isSome_iff (a : Arrow) : a.tooLong?.isSome = true ↔ a.IsOverlong := by
  unfold Arrow.tooLong? Arrow.IsOverlong
  rw [Option.isSome_map, List.find?_isSome]
  simp

theorem readSections_refuses_iff (sections : List Section) :
    (∃ e, readSections sections = .error e) ↔
      ∃ s ∈ sections, ∃ a ∈ s.arrows.head?, a.IsOverlong := by
  have hsome : (∃ e, readSections sections = .error e) ↔
      (sections.findSome? Section.tooLong?).isSome = true := by
    unfold readSections
    cases sections.findSome? Section.tooLong? <;> simp
  rw [hsome, List.findSome?_isSome_iff]
  refine exists_congr fun s => and_congr_right fun _ => ?_
  unfold Section.tooLong?
  cases s.arrows.head? with
  | none => simp
  | some a => simp [Arrow.tooLong?_isSome_iff]

/-- The lines of an output can be cut into sections in one way, and the output is read section by
section: each section gives one diagnostic, in order, and the output is refused exactly if the first
arrow of some section has a number that is too long. -/
theorem Diagnostic.parse_eq_readSections (output : Text) :
    ∃ before sections, IsCut (Text.lines output) before sections ∧
      (∀ before' sections', IsCut (Text.lines output) before' sections' →
        before' = before ∧ sections' = sections) ∧
      Diagnostic.parse output = readSections sections ∧
      ((∃ e, Diagnostic.parse output = .error e) ↔
        ∃ s ∈ sections, ∃ a ∈ s.arrows.head?, a.IsOverlong) := by
  obtain ⟨before, sections, hcut⟩ := exists_cut (Text.lines output)
  have hparse := Diagnostic.parse_of_cut hcut
  refine ⟨before, sections, hcut, fun _ _ => cut_unique hcut, hparse, ?_⟩
  rw [hparse]
  exact readSections_refuses_iff sections

end ContractBuild
