import ContractBuild.Diagnostic.Printer
import ContractBuild.Proofs.Diagnostic.Section

/-!
# Diagnostics that are shown and read again

A diagnostic is regular if its parts are what a reader makes of lines: texts without white space at
their ends, numbers that can be read, gutter lines. It is well formed if none of its texts is empty
besides.

Main statements: well-formed diagnostics that are shown are read back as they are
(`Diagnostic.parse_render`). What is read of any output is regular; shown and read again it keeps
the headings of just those diagnostics that have a message (`Diagnostic.headings_of_redisplay`),
and from then on nothing changes any more (`Diagnostic.parse_render_settles`).
-/

set_option autoImplicit false

namespace ContractBuild

open Text (strip IsLine Digits Blanks ofInt ofNat digitsValue digitLimit)

/-! ## Regular and well-formed diagnostics -/

/-- The text fits into one line and has no white space at its ends. -/
def Text.IsTrimmed (t : Text) : Prop :=
  strip t = t ∧ IsLine t

instance (t : Text) : Decidable (Text.IsTrimmed t) :=
  inferInstanceAs (Decidable (_ ∧ _))

/-- The number is written with digits only, and with few enough of them to be read. -/
def Text.IsReadable (n : Int) : Prop :=
  0 ≤ n ∧ (ofInt n).length ≤ digitLimit

instance (n : Int) : Decidable (Text.IsReadable n) :=
  inferInstanceAs (Decidable (_ ∧ _))

open Text (IsTrimmed IsReadable)

namespace Diagnostic

/-- The parts are such as a reader makes; message, file and suggestion may be empty. -/
structure IsRegular (d : Diagnostic) : Prop where
  message : IsTrimmed d.message
  code : ∀ code ∈ d.code, (code ≠ [] ∧ ']' ∉ code) ∧ IsLine code
  location : ∀ l ∈ d.location, IsTrimmed l.file ∧ IsReadable l.line ∧ IsReadable l.column
  snippet : ∀ t ∈ d.snippet, ∃ gutter : List Text, gutter ≠ [] ∧
    (∀ line ∈ gutter, IsLine line ∧ isGutter line = true) ∧ t = Text.join ['\n'] gutter
  suggestion : ∀ t ∈ d.suggestion, IsTrimmed t

/-- The parts are such as a reader makes, and no text among them is empty. -/
structure IsWellFormed (d : Diagnostic) : Prop extends IsRegular d where
  message_ne : d.message ≠ []
  file_ne : ∀ l ∈ d.location, l.file ≠ []
  suggestion_ne : ∀ t ∈ d.suggestion, t ≠ []

end Diagnostic

/-! ## What is read is regular -/

theorem Text.isTrimmed_strip {t : Text} (h : IsLine t) : IsTrimmed (strip t) :=
  ⟨Text.strip_strip t, h.subset (Text.strip_subset t)⟩

theorem Text.isReadable_digitsValue {digits : Text} (h : Digits digits)
    (hlimit : digits.length ≤ digitLimit) : IsReadable (digitsValue digits) :=
  ⟨Int.natCast_nonneg _, Nat.le_trans (Text.length_ofNat_digitsValue_le h.1) hlimit⟩

namespace Section

/-- The lines of a section hold no separators. -/
def HasLines (s : Section) : Prop :=
  ∀ l ∈ s.lines, IsLine l

variable {s : Section}

theorem isLine_header (h : s.HasLines) :
    IsLine s.header.message ∧ ∀ code ∈ s.header.code, (code ≠ [] ∧ ']' ∉ code) ∧ IsLine code := by
  obtain ⟨hproper, htext⟩ := Header.read?_eq_some_iff.1 s.isHeader
  have hline : IsLine s.header.text := htext ▸ h s.line List.mem_cons_self
  refine ⟨hline.subset fun c hc => ?_, fun code hcode => ⟨hproper.code code hcode, ?_⟩⟩
  · simp [Header.text, hc]
  · refine hline.subset fun c hc => ?_
    simp [Header.text, Option.mem_def.1 hcode, Header.writtenCode, hc]

theorem isLine_of_mem_arrows (h : s.HasLines) {a : Arrow} (ha : a ∈ s.arrows) :
    a.IsProper ∧ IsLine a.file := by
  obtain ⟨line, hline, hread⟩ := List.mem_filterMap.1 ha
  obtain ⟨hproper, before, after, -, -, rfl⟩ := Arrow.read?_eq_some_iff.1 hread
  refine ⟨hproper, (h _ (List.mem_cons_of_mem _ hline)).subset fun c hc => ?_⟩
  simp [Arrow.text, hc]

theorem isLine_of_mem_helps (h : s.HasLines) {t : Text} (ht : t ∈ s.helps) : IsLine t := by
  obtain ⟨line, hline, hread⟩ := List.mem_filterMap.1 ht
  obtain ⟨-, before, -, hshape⟩ := helpText?_eq_some_iff.1 hread
  refine (h _ (List.mem_cons_of_mem _ hline)).subset fun c hc => ?_
  rcases hshape with rfl | rfl <;> simp [hc]

theorem of_mem_snippetOf {gutter : List Text} {t : Text} (h : t ∈ snippetOf gutter) :
    gutter ≠ [] ∧ t = Text.join ['\n'] gutter := by
  unfold snippetOf at h
  split at h
  · cases h
  · rename_i hne
    cases h
    exact ⟨by simpa using hne, rfl⟩

theorem isRegular (h : s.HasLines) (hshort : s.tooLong? = none) : s.diagnostic.IsRegular := by
  obtain ⟨hmessage, hcode⟩ := isLine_header h
  refine ⟨Text.isTrimmed_strip hmessage, hcode, ?_, ?_, ?_⟩
  · intro l hl
    obtain ⟨a, ha, rfl⟩ := Option.map_eq_some_iff.1 hl
    obtain ⟨hproper, hfile⟩ := isLine_of_mem_arrows h (List.mem_of_head? ha)
    -- The reader has come past this arrow, so it has found both numbers short enough.
    have hlimits : ¬ a.IsOverlong := by
      rw [← Arrow.tooLong?_isSome_iff]
      rw [tooLong?, ha, Option.bind_some] at hshort
      simp [hshort]
    obtain ⟨hline, hcolumn⟩ := not_or.1 hlimits
    exact ⟨Text.isTrimmed_strip hfile,
      Text.isReadable_digitsValue hproper.line (Nat.le_of_not_lt hline),
      Text.isReadable_digitsValue hproper.column (Nat.le_of_not_lt hcolumn)⟩
  · intro t ht
    obtain ⟨hne, rfl⟩ := of_mem_snippetOf ht
    refine ⟨s.gutter, hne, fun line hline => ?_, rfl⟩
    obtain ⟨hmem, hgutter⟩ := List.mem_filter.1 hline
    exact ⟨h line (List.mem_cons_of_mem _ hmem), hgutter⟩
  · intro t ht
    obtain ⟨u, hu, rfl⟩ := Option.map_eq_some_iff.1 ht
    exact Text.isTrimmed_strip (isLine_of_mem_helps h (List.mem_of_getLast? hu))

end Section

theorem readSections_eq_ok_iff {sections : List Section} {ds : List Diagnostic} :
    readSections sections = .ok ds ↔
      (∀ s ∈ sections, s.tooLong? = none) ∧ ds = sections.map Section.diagnostic := by
  unfold readSections
  cases hfind : sections.findSome? Section.tooLong? with
  | some e =>
    simp only [reduceCtorEq, false_iff, not_and]
    intro hall
    rw [List.findSome?_eq_none_iff.2 hall] at hfind
    cases hfind
  | none =>
    rw [Except.ok.injEq]
    exact ⟨fun h => ⟨List.findSome?_eq_none_iff.1 hfind, h.symm⟩, fun h => h.2.symm⟩

theorem IsCut.hasLines {t : Text} {before : List Text} {sections : List Section}
    (h : IsCut (Text.lines t) before sections) : ∀ s ∈ sections, s.HasLines := by
  intro s hs l hl
  refine Text.isLine_of_mem_lines (t := t) ?_
  rw [h.eq]
  exact List.mem_append_right _ (List.mem_flatMap.2 ⟨s, hs, hl⟩)

namespace Diagnostic

/-- What is read of an output is regular. -/
theorem isRegular_of_parse {output : Text} {ds : List Diagnostic} (h : parse output = .ok ds) :
    ∀ d ∈ ds, d.IsRegular := by
  obtain ⟨before, sections, hcut⟩ := exists_cut (Text.lines output)
  rw [parse_of_cut hcut] at h
  obtain ⟨hshort, rfl⟩ := readSections_eq_ok_iff.1 h
  intro d hd
  obtain ⟨s, hs, rfl⟩ := List.mem_map.1 hd
  exact Section.isRegular (hcut.hasLines s hs) (hshort s hs)

end Diagnostic

/-! ## The lines of shown diagnostics -/

theorem Text.IsReadable.digits {n : Int} (h : IsReadable n) : Digits (ofInt n) := by
  obtain ⟨hn, -⟩ := h
  obtain ⟨m, rfl⟩ := Int.eq_ofNat_of_zero_le hn
  exact ⟨Text.ofNat_ne_nil m, fun c => Text.isDigit_of_mem_ofNat⟩

theorem Text.IsReadable.digitsValue_ofInt {n : Int} (h : IsReadable n) :
    (digitsValue (ofInt n) : Int) = n := by
  obtain ⟨hn, -⟩ := h
  obtain ⟨m, rfl⟩ := Int.eq_ofNat_of_zero_le hn
  exact congrArg Int.ofNat (Text.digitsValue_ofNat m)

theorem Text.isLine_of_digits {t : Text} (h : Digits t) : IsLine t := by
  have hdisjoint : ∀ c ∈ Text.lineSeparators, Text.isDigit c = false := by decide
  intro c hc
  rw [Bool.eq_false_iff]
  intro hseparator
  have hnot := hdisjoint c (List.contains_iff_mem.1 hseparator)
  rw [h.2 c hc] at hnot
  cases hnot

/-- The parts of the arrow that is shown for a location. -/
def Location.arrow (l : Location) : Arrow :=
  ⟨l.file, ofInt l.line, ofInt l.column⟩

namespace Diagnostic

/-- The parts of the header that is shown. -/
def heading (d : Diagnostic) : Header :=
  ⟨d.severity, d.code, d.message⟩

/-- The line that is shown for a suggestion. -/
def helpLine (suggestion : Text) : Text :=
  "  help: " ++ suggestion

/-- The lines of the snippet. -/
def snippetLines (d : Diagnostic) : List Text :=
  (d.snippet.map Text.lines).getD []

/-- The lines that are shown after the header. -/
def bodyLines (d : Diagnostic) : List Text :=
  (d.location.map arrowLine).toList ++
    (d.snippetLines ++ ((present d.suggestion).map helpLine).toList)

/-- The lines that are shown for one diagnostic. -/
def shownLines (d : Diagnostic) : List Text :=
  d.headerLine :: d.bodyLines

/-- The lines that are shown for several diagnostics. -/
def displayLines (ds : List Diagnostic) : List Text :=
  List.intercalate [[]] (ds.map shownLines)

variable {d : Diagnostic}

theorem present_eq_some_iff {part : Option Text} {t : Text} :
    present part = some t ↔ t ∈ part ∧ t ≠ [] := by
  unfold present
  split
  · simp
  · rename_i hne
    rw [Option.mem_def]
    constructor
    · rintro rfl
      exact ⟨rfl, fun h => hne (by rw [h])⟩
    · exact fun h => h.1

theorem headerLine_eq (h : d.IsRegular) : d.headerLine = d.heading.text := by
  have hcode : present d.code = d.code := by
    cases hc : d.code with
    | none => rfl
    | some code => exact present_eq_some_iff.2 ⟨rfl, (h.code code hc).1.1⟩
  have hparts : d.headerLine =
      d.severity.name ++ Header.writtenCode d.code ++ (": " : Text) ++ d.message := by
    rw [headerLine, hcode]
    rfl
  rw [hparts, List.append_assoc, List.append_assoc]
  rfl

theorem arrowLine_eq (l : Location) :
    arrowLine l = [' '] ++ (("--> " : Text) ++ (l.arrow.text ++ ([] : Text))) := by
  unfold arrowLine Arrow.text
  rw [List.append_nil]
  simp only [List.append_assoc]
  rfl

theorem blanks_space : Blanks [' '] := by
  intro c hc
  obtain rfl := List.mem_singleton.1 hc
  decide

theorem isLine_arrowLine {l : Location} (hfile : IsLine l.file) (hline : IsReadable l.line)
    (hcolumn : IsReadable l.column) : IsLine (arrowLine l) := by
  have hcolon : IsLine ":" := by decide
  have harrow : IsLine " --> " := by decide
  exact (((((harrow.append hfile).append hcolon).append (Text.isLine_of_digits hline.digits)).append
    hcolon).append (Text.isLine_of_digits hcolumn.digits))

/-- Only an arrow with a file is read back. -/
theorem read?_arrowLine {l : Location} (hline : IsReadable l.line) (hcolumn : IsReadable l.column) :
    Arrow.read? (arrowLine l) = if l.file.isEmpty then none else some l.arrow := by
  rw [arrowLine_eq]
  exact Arrow.read?_written l.file blanks_space (List.forall_mem_nil _) hline.digits hcolumn.digits

theorem lead?_arrowLine (l : Location) : Text.lead? (arrowLine l) = some '-' := by
  rw [arrowLine_eq]
  exact Text.lead?_blanks_append blanks_space rfl (by decide)

/-- A line that begins with a space is no header. -/
theorem read?_of_space {line : Text} (h : line.head? = some ' ') : Header.read? line = none := by
  refine Option.eq_none_iff_forall_ne_some.2 fun header hread => ?_
  have hhead := Header.head?_of_read? hread
  rw [h] at hhead
  cases hs : header.severity <;> rw [hs] at hhead <;> cases hhead

theorem arrow_location {l : Location} (hfile : IsTrimmed l.file) (hline : IsReadable l.line)
    (hcolumn : IsReadable l.column) : l.arrow.location = l := by
  obtain ⟨file, line, column⟩ := l
  simp only [Location.arrow, Arrow.location, hfile.1, hline.digitsValue_ofInt,
    hcolumn.digitsValue_ofInt]

theorem not_isOverlong_arrow {l : Location} (hline : IsReadable l.line)
    (hcolumn : IsReadable l.column) : ¬ l.arrow.IsOverlong :=
  not_or.2 ⟨Nat.not_lt.2 hline.2, Nat.not_lt.2 hcolumn.2⟩

theorem helpText?_helpLine {t : Text} (h : t ≠ []) : helpText? (helpLine t) = some t := by
  refine helpText?_eq_some_iff.2 ⟨h, [' ', ' '], ?_, .inl rfl⟩
  decide

/-- The gutter lines of a snippet are its lines. -/
theorem lines_of_snippet {gutter : List Text}
    (hgutter : ∀ line ∈ gutter, IsLine line ∧ isGutter line = true) :
    Text.lines (Text.join ['\n'] gutter) = gutter := by
  refine Text.lines_join (fun line hline => (hgutter line hline).1) fun hlast => ?_
  have hempty := (hgutter [] (List.mem_of_getLast? hlast)).2
  cases hempty

theorem of_mem_snippetLines (h : d.IsRegular) {line : Text} (hline : line ∈ d.snippetLines) :
    IsLine line ∧ isGutter line = true := by
  unfold snippetLines at hline
  cases hsnippet : d.snippet with
  | none =>
    rw [hsnippet] at hline
    cases hline
  | some t =>
    obtain ⟨gutter, -, hgutter, rfl⟩ := h.snippet t hsnippet
    rw [hsnippet, Option.map_some, Option.getD_some, lines_of_snippet hgutter] at hline
    exact hgutter line hline

/-- Each line that is shown after the header is an arrow, a gutter line or a help line. -/
theorem of_mem_bodyLines (h : d.IsRegular) {line : Text} (hline : line ∈ d.bodyLines) :
    (∃ l ∈ d.location, line = arrowLine l) ∨ (IsLine line ∧ isGutter line = true) ∨
      ∃ t ∈ d.suggestion, t ≠ [] ∧ line = helpLine t := by
  rw [bodyLines, List.mem_append, List.mem_append] at hline
  rcases hline with hline | hline | hline
  · rw [Option.mem_toList, Option.map_eq_some_iff] at hline
    obtain ⟨l, hl, rfl⟩ := hline
    exact .inl ⟨l, hl, rfl⟩
  · exact .inr (.inl (of_mem_snippetLines h hline))
  · rw [Option.mem_toList, Option.map_eq_some_iff] at hline
    obtain ⟨t, ht, rfl⟩ := hline
    obtain ⟨hmem, hne⟩ := present_eq_some_iff.1 ht
    exact .inr (.inr ⟨t, hmem, hne, rfl⟩)

/-- A line of the output of which a reader can make a part that is not lost when it is shown
again. -/
structure IsClean (line : Text) : Prop where
  isLine : IsLine line
  message : ∀ header, Header.read? line = some header → strip header.message ≠ []
  file : ∀ a, Arrow.read? line = some a → strip a.file ≠ [] ∧ ¬ a.IsOverlong
  suggestion : ∀ t, Header.read? line = none → helpText? line = some t → strip t ≠ []

theorem isClean_nil : IsClean [] := by
  refine ⟨List.forall_mem_nil _, ?_, ?_, ?_⟩
  · rintro header ⟨⟩
  · rintro a ⟨⟩
  · rintro t - ⟨⟩

theorem isLine_text {header : Header} (hmessage : IsLine header.message)
    (hcode : ∀ code ∈ header.code, IsLine code) : IsLine header.text := by
  obtain ⟨severity, code, message⟩ := header
  have hseverity : IsLine severity.name := by cases severity <;> decide
  have hcolon : IsLine ": " := by decide
  have hbracket : IsLine "[" ∧ IsLine "]" := by decide
  refine hseverity.append (.append ?_ (hcolon.append hmessage))
  cases code with
  | none => exact List.forall_mem_nil _
  | some code => exact (hbracket.1.append (hcode code rfl)).append hbracket.2

theorem read?_headerLine (h : d.IsRegular) :
    Header.read? d.headerLine = if d.message.isEmpty then none else some d.heading := by
  rw [headerLine_eq h]
  exact Header.read?_text fun code hcode => (h.code code hcode).1

theorem isClean_headerLine (h : d.IsRegular) : IsClean d.headerLine := by
  obtain ⟨harrow, -, hhelp⟩ := Header.apart_of_text d.heading
  have hread := read?_headerLine h
  -- If the message is empty, the line is no header any more and must not be taken for another kind.
  refine ⟨?_, ?_, ?_, ?_⟩
  · rw [headerLine_eq h]
    exact isLine_text h.message.2 fun code hcode => (h.code code hcode).2
  · intro header hheader
    rw [hread] at hheader
    split at hheader
    · cases hheader
    · rename_i hne
      cases hheader
      rw [heading, h.message.1]
      simpa using hne
  · intro a ha
    rw [headerLine_eq h, harrow] at ha
    cases ha
  · intro t hnone ht
    rw [hread] at hnone
    split at hnone
    · rename_i hempty
      rw [headerLine_eq h, hhelp (List.isEmpty_iff.1 hempty)] at ht
      cases ht
    · cases hnone

/-- A line that is no header is clean if what it gives as an arrow or a help line is not lost. -/
theorem IsClean.of_noHeader {line : Text} (hline : IsLine line) (hheader : Header.read? line = none)
    (hfile : ∀ a, Arrow.read? line = some a → strip a.file ≠ [] ∧ ¬ a.IsOverlong)
    (hsuggestion : ∀ t, helpText? line = some t → strip t ≠ []) : IsClean line where
  isLine := hline
  message header hread := by
    rw [hheader] at hread
    cases hread
  file := hfile
  suggestion t _ := hsuggestion t

theorem isClean_arrowLine {l : Location} (hfile : IsTrimmed l.file) (hline : IsReadable l.line)
    (hcolumn : IsReadable l.column) : IsClean (arrowLine l) := by
  refine .of_noHeader (isLine_arrowLine hfile.2 hline hcolumn) (read?_of_space rfl) ?_ ?_
  · intro a ha
    rw [read?_arrowLine hline hcolumn] at ha
    split at ha
    · cases ha
    · rename_i hne
      cases ha
      refine ⟨?_, not_isOverlong_arrow hline hcolumn⟩
      rw [Location.arrow, hfile.1]
      simpa using hne
  · intro t ht
    -- The file may be empty, so the line need not be an arrow; but its lead is that of one.
    have hlead := lead?_arrowLine l
    rcases lead?_of_helpText? ht with hhelp | hhelp <;> rw [hhelp] at hlead <;> cases hlead

theorem isClean_of_isGutter {line : Text} (hline : IsLine line) (hgutter : isGutter line = true) :
    IsClean line := by
  obtain ⟨hheader, harrow, hhelp⟩ := apart_of_isGutter hgutter
  refine .of_noHeader hline hheader ?_ ?_
  · intro a ha
    rw [harrow] at ha
    cases ha
  · intro t ht
    rw [hhelp] at ht
    cases ht

theorem isClean_helpLine {t : Text} (ht : IsTrimmed t) (hne : t ≠ []) : IsClean (helpLine t) := by
  have hread := helpText?_helpLine hne
  have hspaces : IsLine "  help: " := by decide
  refine .of_noHeader (hspaces.append ht.2) (read?_of_space rfl) ?_ ?_
  · intro a ha
    rw [(apart_of_helpText? hread).1] at ha
    cases ha
  · intro u hu
    rw [hread] at hu
    cases hu
    rwa [ht.1]

theorem isClean_of_mem_bodyLines (h : d.IsRegular) {line : Text} (hline : line ∈ d.bodyLines) :
    IsClean line := by
  rcases of_mem_bodyLines h hline with ⟨l, hl, rfl⟩ | ⟨hisLine, hgutter⟩ | ⟨t, ht, hne, rfl⟩
  · obtain ⟨hfile, hnumber, hcolumn⟩ := h.location l hl
    exact isClean_arrowLine hfile hnumber hcolumn
  · exact isClean_of_isGutter hisLine hgutter
  · exact isClean_helpLine (h.suggestion t ht) hne

theorem noHeader_of_mem_bodyLines (h : d.IsRegular) {line : Text} (hline : line ∈ d.bodyLines) :
    Header.read? line = none := by
  rcases of_mem_bodyLines h hline with ⟨l, -, rfl⟩ | ⟨-, hgutter⟩ | ⟨t, -, -, rfl⟩
  · exact read?_of_space rfl
  · exact (apart_of_isGutter hgutter).1
  · exact read?_of_space rfl

/-- All lines of a regular diagnostic are clean. -/
theorem isClean_of_mem_shownLines (h : d.IsRegular) {line : Text} (hline : line ∈ d.shownLines) :
    IsClean line := by
  rcases List.mem_cons.1 hline with rfl | hline
  · exact isClean_headerLine h
  · exact isClean_of_mem_bodyLines h hline

theorem ne_nil_of_mem_shownLines (h : d.IsRegular) {line : Text} (hline : line ∈ d.shownLines) :
    line ≠ [] := by
  rintro rfl
  rcases List.mem_cons.1 hline with hline | hline
  · rw [headerLine_eq h] at hline
    cases hs : d.severity <;> rw [Header.text, heading, hs] at hline <;> cases hline
  · rcases of_mem_bodyLines h hline with ⟨l, -, hempty⟩ | ⟨-, hgutter⟩ | ⟨t, -, -, hempty⟩
    · rw [arrowLine_eq] at hempty
      cases hempty
    · cases hgutter
    · cases hempty

/-- One more diagnostic in front of others stands before them, with an empty line between. -/
theorem displayLines_cons (d : Diagnostic) (ds : List Diagnostic) :
    displayLines (d :: ds) =
      d.shownLines ++ ((if ds.isEmpty then [] else [[]]) ++ displayLines ds) := by
  unfold displayLines
  cases ds with
  | nil => simp
  | cons second rest =>
    rw [List.map_cons, List.map_cons, List.intercalate_cons_cons, List.append_assoc]
    rfl

theorem isClean_of_mem_displayLines {ds : List Diagnostic} (h : ∀ d ∈ ds, d.IsRegular)
    {line : Text} (hline : line ∈ displayLines ds) : IsClean line := by
  induction ds with
  | nil => cases hline
  | cons d rest ih =>
    obtain ⟨hd, hrest⟩ := List.forall_mem_cons.1 h
    rw [displayLines_cons, List.mem_append, List.mem_append] at hline
    rcases hline with hline | hline | hline
    · exact isClean_of_mem_shownLines hd hline
    · split at hline
      · cases hline
      · obtain rfl := List.mem_singleton.1 hline
        exact isClean_nil
    · exact ih hrest hline

theorem getLast?_displayLines {ds : List Diagnostic} (h : ∀ d ∈ ds, d.IsRegular) :
    (displayLines ds).getLast? ≠ some [] := by
  induction ds with
  | nil => simp [displayLines]
  | cons d rest ih =>
    obtain ⟨hd, hrest⟩ := List.forall_mem_cons.1 h
    rw [displayLines_cons]
    cases rest with
    | nil =>
      intro hlast
      have hmem : [] ∈ d.shownLines ++ [] := List.mem_of_getLast? hlast
      rw [List.append_nil] at hmem
      exact ne_nil_of_mem_shownLines hd hmem rfl
    | cons second rest =>
      -- The empty line between two diagnostics is not the last one, since lines come after it.
      have hne : displayLines (second :: rest) ≠ [] := by
        rw [displayLines_cons, shownLines]
        exact List.cons_ne_nil _ _
      rw [← List.append_assoc, List.getLast?_append, List.getLast?_eq_some_getLast hne,
        Option.some_or, ← List.getLast?_eq_some_getLast hne]
      exact ih hrest

/-- The snippet of a regular diagnostic is shown line by line. -/
theorem join_renderLines (h : d.IsRegular) :
    Text.join ['\n'] d.renderLines = Text.join ['\n'] d.shownLines := by
  have hrender : d.renderLines = (d.headerLine :: (d.location.map arrowLine).toList) ++
      ((present d.snippet).toList ++ ((present d.suggestion).map helpLine).toList) := by
    unfold renderLines
    rw [List.append_assoc]
    rfl
  have hshown : d.shownLines = (d.headerLine :: (d.location.map arrowLine).toList) ++
      (d.snippetLines ++ ((present d.suggestion).map helpLine).toList) := rfl
  rw [hrender, hshown, snippetLines]
  cases hsnippet : d.snippet with
  | none => rfl
  | some t =>
    -- The snippet is printed as one text, which is cut into the same gutter lines again.
    obtain ⟨gutter, hne, hgutter, rfl⟩ := h.snippet t hsnippet
    have hlines := lines_of_snippet hgutter
    have hpresent : present (some (Text.join ['\n'] gutter)) = some (Text.join ['\n'] gutter) := by
      refine present_eq_some_iff.2 ⟨rfl, fun hempty => hne ?_⟩
      rw [← hlines, hempty]
      rfl
    rw [hpresent, Option.map_some, hlines]
    exact Text.join_join ['\n'] _ hne _

/-- The lines of the text that is shown. -/
theorem lines_render {ds : List Diagnostic} (h : ∀ d ∈ ds, d.IsRegular) :
    Text.lines (render ds) = displayLines ds := by
  -- A gap of two line ends between diagnostics is one line end before and after an empty line.
  have hjoin : render ds = Text.join ['\n'] (displayLines ds) := by
    have hblocks : ds.map (fun d => Text.join ['\n'] d.renderLines) =
        (ds.map shownLines).map (Text.join ['\n']) := by
      rw [List.map_map]
      exact List.map_congr_left fun d hd => join_renderLines (h d hd)
    rw [render, hblocks]
    refine Text.join_blocks ['\n'] fun b hb => ?_
    obtain ⟨d, -, rfl⟩ := List.mem_map.1 hb
    exact List.cons_ne_nil _ _
  rw [hjoin]
  exact Text.lines_join (fun line hline => (isClean_of_mem_displayLines h hline).isLine)
    (getLast?_displayLines h)

end Diagnostic

/-! ## What is read of clean lines -/

theorem Section.isWellFormed {s : Section} (h : ∀ l ∈ s.lines, Diagnostic.IsClean l) :
    s.tooLong? = none ∧ s.diagnostic.IsWellFormed := by
  have hbody : ∀ l ∈ s.body, Diagnostic.IsClean l := fun l hl => h l (List.mem_cons_of_mem _ hl)
  have harrows : ∀ a ∈ s.arrows, strip a.file ≠ [] ∧ ¬ a.IsOverlong := by
    intro a ha
    obtain ⟨line, hline, hread⟩ := List.mem_filterMap.1 ha
    exact (hbody line hline).file a hread
  have hshort : s.tooLong? = none := by
    rw [tooLong?, Option.bind_eq_none_iff]
    intro a ha
    have hnot := (harrows a (List.mem_of_head? ha)).2
    rw [← Arrow.tooLong?_isSome_iff] at hnot
    simpa using hnot
  refine ⟨hshort, isRegular (fun l hl => (h l hl).isLine) hshort, ?_, ?_, ?_⟩
  · exact (h s.line List.mem_cons_self).message s.header s.isHeader
  · intro l hl
    obtain ⟨a, ha, rfl⟩ := Option.map_eq_some_iff.1 hl
    exact (harrows a (List.mem_of_head? ha)).1
  · intro t ht
    obtain ⟨u, hu, rfl⟩ := Option.map_eq_some_iff.1 ht
    obtain ⟨line, hline, hread⟩ := List.mem_filterMap.1 (List.mem_of_getLast? hu)
    exact (hbody line hline).suggestion u (s.noHeader line hline) hread

/-- The headers among some lines are those of the sections. -/
theorem IsCut.filterMap_header {lines before : List Text} {sections : List Section}
    (h : IsCut lines before sections) :
    lines.filterMap Header.read? = sections.map (·.header) := by
  obtain ⟨hbefore, rfl⟩ := h
  rw [List.filterMap_append, List.filterMap_eq_nil_iff.2 hbefore, List.nil_append]
  induction sections with
  | nil => rfl
  | cons s rest ih =>
    rw [List.flatMap_cons, List.filterMap_append, ih, Section.lines,
      List.filterMap_cons_some s.isHeader, List.filterMap_eq_nil_iff.2 s.noHeader]
    rfl

namespace Diagnostic

/-- The headers that are read back are those with a message. -/
theorem filterMap_displayLines {ds : List Diagnostic} (h : ∀ d ∈ ds, d.IsRegular) :
    (displayLines ds).filterMap Header.read? =
      (ds.filter fun d => !d.message.isEmpty).map heading := by
  induction ds with
  | nil => rfl
  | cons d rest ih =>
    obtain ⟨hd, hrest⟩ := List.forall_mem_cons.1 h
    have hbody : d.bodyLines.filterMap Header.read? = [] :=
      List.filterMap_eq_nil_iff.2 fun line hline => noHeader_of_mem_bodyLines hd hline
    have hgap : (if rest.isEmpty then [] else [[]] : List Text).filterMap Header.read? = [] := by
      split <;> rfl
    have hread := read?_headerLine hd
    rw [displayLines_cons, List.filterMap_append, List.filterMap_append, hgap, ih hrest, shownLines]
    cases hempty : d.message.isEmpty with
    | true =>
      rw [hempty, if_pos rfl] at hread
      rw [List.filterMap_cons_none hread, hbody, List.filter_cons_of_neg (by simp [hempty])]
      rfl
    | false =>
      rw [hempty, if_neg (by simp)] at hread
      rw [List.filterMap_cons_some hread, hbody, List.filter_cons_of_pos (by simp [hempty])]
      rfl

/-- Regular diagnostics that are shown are read back well formed; just those with a message keep
their headings, in order. -/
theorem parse_render_of_regular {ds : List Diagnostic} (h : ∀ d ∈ ds, d.IsRegular) :
    ∃ again, parse (render ds) = .ok again ∧ (∀ d ∈ again, d.IsWellFormed) ∧
      again.map heading = (ds.filter fun d => !d.message.isEmpty).map heading := by
  -- The sections that are read need not be the diagnostics that were shown: where a header is lost,
  -- the lines after it join the section before. All that counts is that their lines are clean.
  obtain ⟨before, sections, hcut⟩ := exists_cut (displayLines ds)
  have hsections : ∀ s ∈ sections, s.tooLong? = none ∧ s.diagnostic.IsWellFormed := by
    intro s hs
    refine Section.isWellFormed fun l hl => isClean_of_mem_displayLines h ?_
    rw [hcut.eq]
    exact List.mem_append_right _ (List.mem_flatMap.2 ⟨s, hs, hl⟩)
  refine ⟨sections.map Section.diagnostic, ?_, ?_, ?_⟩
  · rw [parse_of_cut (by rw [lines_render h]; exact hcut)]
    exact readSections_eq_ok_iff.2 ⟨fun s hs => (hsections s hs).1, rfl⟩
  · intro d hd
    obtain ⟨s, hs, rfl⟩ := List.mem_map.1 hd
    exact (hsections s hs).2
  · have hheadings := filterMap_displayLines h
    rw [hcut.filterMap_header] at hheadings
    -- The message of a heading is not changed by stripping it once more.
    have hstrip : ∀ s ∈ sections, s.diagnostic.heading = s.header := by
      intro s hs
      have hmem : s.header ∈ sections.map (·.header) := List.mem_map_of_mem hs
      rw [hheadings] at hmem
      obtain ⟨d, hd, hheader⟩ := List.mem_map.1 hmem
      have hmessage := (h d (List.mem_filter.1 hd).1).message.1
      have hsame : strip s.header.message = s.header.message := by
        rw [← hheader]
        exact hmessage
      rw [heading, Section.diagnostic, hsame]
    rw [← hheadings, List.map_map]
    exact List.map_congr_left hstrip

/-! ## Well-formed diagnostics -/

variable {d : Diagnostic}

namespace IsWellFormed

theorem read?_arrowLine (h : d.IsWellFormed) {l : Location} (hl : l ∈ d.location) :
    Arrow.read? (arrowLine l) = some l.arrow := by
  obtain ⟨-, hline, hcolumn⟩ := h.location l hl
  rw [Diagnostic.read?_arrowLine hline hcolumn, if_neg (by simpa using h.file_ne l hl)]

theorem present_suggestion (h : d.IsWellFormed) : present d.suggestion = d.suggestion := by
  cases hs : d.suggestion with
  | none => rfl
  | some t => exact present_eq_some_iff.2 ⟨rfl, h.suggestion_ne t hs⟩

theorem filterMap_arrow (h : d.IsWellFormed) :
    d.bodyLines.filterMap Arrow.read? = (d.location.map Location.arrow).toList := by
  have hlocation : (d.location.map arrowLine).toList.filterMap Arrow.read? =
      (d.location.map Location.arrow).toList := by
    cases hl : d.location with
    | none => rfl
    | some l => exact List.filterMap_cons_some (h.read?_arrowLine hl)
  have hsnippet : d.snippetLines.filterMap Arrow.read? = [] :=
    List.filterMap_eq_nil_iff.2 fun line hline =>
      (apart_of_isGutter (of_mem_snippetLines h.toIsRegular hline).2).2.1
  have hhelp : (d.suggestion.map helpLine).toList.filterMap Arrow.read? = [] := by
    cases ht : d.suggestion with
    | none => rfl
    | some t =>
      exact List.filterMap_cons_none
        (apart_of_helpText? (helpText?_helpLine (h.suggestion_ne t ht))).1
  rw [bodyLines, h.present_suggestion, List.filterMap_append, List.filterMap_append, hlocation,
    hsnippet, hhelp, List.append_nil, List.append_nil]

theorem filterMap_help (h : d.IsWellFormed) :
    d.bodyLines.filterMap helpText? = d.suggestion.toList := by
  have hlocation : (d.location.map arrowLine).toList.filterMap helpText? = [] := by
    cases hl : d.location with
    | none => rfl
    | some l => exact List.filterMap_cons_none (Arrow.apart (h.read?_arrowLine hl)).2.1
  have hsnippet : d.snippetLines.filterMap helpText? = [] :=
    List.filterMap_eq_nil_iff.2 fun line hline =>
      (apart_of_isGutter (of_mem_snippetLines h.toIsRegular hline).2).2.2
  have hhelp : (d.suggestion.map helpLine).toList.filterMap helpText? = d.suggestion.toList := by
    cases ht : d.suggestion with
    | none => rfl
    | some t => exact List.filterMap_cons_some (helpText?_helpLine (h.suggestion_ne t ht))
  rw [bodyLines, h.present_suggestion, List.filterMap_append, List.filterMap_append, hlocation,
    hsnippet, hhelp, List.nil_append, List.nil_append]

theorem filter_gutter (h : d.IsWellFormed) : d.bodyLines.filter isGutter = d.snippetLines := by
  have hlocation : (d.location.map arrowLine).toList.filter isGutter = [] := by
    cases hl : d.location with
    | none => rfl
    | some l =>
      exact List.filter_cons_of_neg (by simp [(Arrow.apart (h.read?_arrowLine hl)).2.2])
  have hsnippet : d.snippetLines.filter isGutter = d.snippetLines :=
    List.filter_eq_self.2 fun line hline => (of_mem_snippetLines h.toIsRegular hline).2
  have hhelp : (d.suggestion.map helpLine).toList.filter isGutter = [] := by
    cases ht : d.suggestion with
    | none => rfl
    | some t =>
      have hgutter := (apart_of_helpText? (helpText?_helpLine (h.suggestion_ne t ht))).2
      exact List.filter_cons_of_neg (by simp [hgutter])
  rw [bodyLines, h.present_suggestion, List.filter_append, List.filter_append, hlocation,
    hsnippet, hhelp, List.append_nil, List.nil_append]

theorem snippetOf_snippetLines (h : d.IsWellFormed) : snippetOf d.snippetLines = d.snippet := by
  unfold snippetLines
  cases hsnippet : d.snippet with
  | none => rfl
  | some t =>
    obtain ⟨gutter, hne, hgutter, rfl⟩ := h.snippet t hsnippet
    rw [Option.map_some, Option.getD_some, lines_of_snippet hgutter, snippetOf,
      if_neg (by simpa using hne)]

theorem map_location (h : d.IsWellFormed) :
    ((d.location.map Location.arrow).toList).head?.map Arrow.location = d.location := by
  cases hl : d.location with
  | none => rfl
  | some l =>
    obtain ⟨hfile, hline, hcolumn⟩ := h.location l hl
    exact congrArg some (arrow_location hfile hline hcolumn)

theorem map_suggestion (h : d.IsWellFormed) :
    d.suggestion.toList.getLast?.map strip = d.suggestion := by
  cases ht : d.suggestion with
  | none => rfl
  | some t => exact congrArg some (h.suggestion t ht).1

/-- What is shown for a well-formed diagnostic is a section that is read as this diagnostic, also
with empty lines after it. -/
theorem exists_section (h : d.IsWellFormed) {gap : List Text} (hgap : ∀ line ∈ gap, line = []) :
    ∃ s : Section, s.lines = d.shownLines ++ gap ∧ s.tooLong? = none ∧ s.diagnostic = d := by
  have hheader : Header.read? d.headerLine = some d.heading := by
    rw [read?_headerLine h.toIsRegular, if_neg (by simpa using h.message_ne)]
  have hbody : ∀ line ∈ d.bodyLines ++ gap, Header.read? line = none := by
    intro line hline
    rcases List.mem_append.1 hline with hline | hline
    · exact noHeader_of_mem_bodyLines h.toIsRegular hline
    · rw [hgap line hline]
      rfl
  have hnone : gap.filterMap Arrow.read? = [] ∧ gap.filterMap helpText? = [] ∧
      gap.filter isGutter = [] := by
    refine ⟨List.filterMap_eq_nil_iff.2 ?_, List.filterMap_eq_nil_iff.2 ?_,
      List.filter_eq_nil_iff.2 ?_⟩ <;> intro line hline <;> rw [hgap line hline] <;> decide
  -- The empty lines after the diagnostic belong to the section, but nothing is read of them.
  let s : Section := ⟨d.headerLine, d.heading, d.bodyLines ++ gap, hheader, hbody⟩
  have harrows : s.arrows = (d.location.map Location.arrow).toList := by
    rw [Section.arrows, List.filterMap_append, h.filterMap_arrow, hnone.1, List.append_nil]
  have hhelps : s.helps = d.suggestion.toList := by
    rw [Section.helps, List.filterMap_append, h.filterMap_help, hnone.2.1, List.append_nil]
  have hgutter : s.gutter = d.snippetLines := by
    rw [Section.gutter, List.filter_append, h.filter_gutter, hnone.2.2, List.append_nil]
  have hshort : s.tooLong? = none := by
    rw [Section.tooLong?, harrows, Option.bind_eq_none_iff]
    intro a ha
    obtain ⟨l, hl, rfl⟩ := Option.map_eq_some_iff.1 (Option.mem_toList.1 (List.mem_of_head? ha))
    obtain ⟨-, hline, hcolumn⟩ := h.location l hl
    have hnot := not_isOverlong_arrow hline hcolumn
    rw [← Arrow.tooLong?_isSome_iff] at hnot
    simpa using hnot
  refine ⟨s, rfl, hshort, ?_⟩
  · rw [Section.diagnostic, harrows, hhelps, hgutter, h.map_location, h.map_suggestion,
      h.snippetOf_snippetLines]
    show Diagnostic.mk d.severity (strip d.message) d.code d.location d.snippet d.suggestion = d
    rw [h.message.1]

end IsWellFormed

/-- The lines that are shown for well-formed diagnostics are cut into one section for each of
them. -/
theorem exists_sections {ds : List Diagnostic} (h : ∀ d ∈ ds, d.IsWellFormed) :
    ∃ sections : List Section, displayLines ds = sections.flatMap Section.lines ∧
      readSections sections = .ok ds := by
  induction ds with
  | nil => exact ⟨[], rfl, rfl⟩
  | cons d rest ih =>
    obtain ⟨hd, hrest⟩ := List.forall_mem_cons.1 h
    obtain ⟨sections, hlines, hread⟩ := ih hrest
    have hgap : ∀ line ∈ (if rest.isEmpty then [] else [[]] : List Text), line = [] := by
      intro line hline
      split at hline
      · cases hline
      · exact List.mem_singleton.1 hline
    -- The empty line in front of the other diagnostics ends the section of this one.
    obtain ⟨s, hs, hshort, hdiagnostic⟩ := hd.exists_section hgap
    obtain ⟨hshorts, rfl⟩ := readSections_eq_ok_iff.1 hread
    refine ⟨s :: sections, ?_, readSections_eq_ok_iff.2 ⟨?_, ?_⟩⟩
    · rw [displayLines_cons, ← List.append_assoc, hlines, List.flatMap_cons, hs]
    · exact List.forall_mem_cons.2 ⟨hshort, hshorts⟩
    · rw [List.map_cons, hdiagnostic]

theorem exists_cut_render {ds : List Diagnostic} (h : ∀ d ∈ ds, d.IsWellFormed) :
    ∃ before sections, IsCut (Text.lines (render ds)) before sections ∧
      readSections sections = .ok ds := by
  obtain ⟨sections, hlines, hread⟩ := exists_sections h
  refine ⟨[], sections, ⟨List.forall_mem_nil _, ?_⟩, hread⟩
  rw [lines_render fun d hd => (h d hd).toIsRegular, hlines]
  rfl

/-! ## Showing and reading -/

/-- Well-formed diagnostics that are shown are read back as they are. -/
theorem parse_render (ds : List Diagnostic) (h : ∀ d ∈ ds, d.IsWellFormed) :
    parse (render ds) = .ok ds := by
  obtain ⟨before, sections, hcut, hread⟩ := exists_cut_render h
  rw [parse_of_cut hcut, hread]

/-- An error with a file full of colons, a note with a code and two gutter lines, and a warning with
nothing but a message that looks like an arrow. -/
theorem parse_render_colons :
    let ds : List Diagnostic :=
      [{ severity := .error
         message := "mismatched types: `u8`"
         code := some "E0308"
         location := some ⟨"c: 1:2:rs", 10, 203⟩
         suggestion := some "help: x" },
       { severity := .note
         message := "error: [1]"
         code := some "a[b"
         snippet := some "  |\n12 | --> a:1:2" },
       { severity := .warning, message := "--> a:1:2" }]
    parse (render ds) = .ok ds := by
  refine parse_render _ ?_
  have hgutter : ∀ line ∈ (["  |", "12 | --> a:1:2"] : List Text),
      IsLine line ∧ isGutter line = true := by
    decide
  simp only [List.forall_mem_cons]
  refine ⟨⟨⟨by decide, by decide, by decide, nofun, by decide⟩, by decide, by decide, by decide⟩,
    ⟨⟨by decide, by decide, by decide, ?_, by decide⟩, by decide, by decide, by decide⟩,
    ⟨⟨by decide, by decide, by decide, nofun, by decide⟩, by decide, by decide, by decide⟩,
    List.forall_mem_nil _⟩
  rintro t ⟨⟩
  exact ⟨_, by decide, hgutter, rfl⟩

/-- What is read of an output, shown and read again, has the headings of just those diagnostics that
have a message. So the headings are recovered if and only if no message is empty. -/
theorem headings_of_redisplay {output : Text} {ds : List Diagnostic} (h : parse output = .ok ds) :
    ∃ again, parse (render ds) = .ok again ∧
      again.map heading = (ds.filter fun d => !d.message.isEmpty).map heading ∧
      (again.map heading = ds.map heading ↔ ∀ d ∈ ds, d.message ≠ []) := by
  obtain ⟨again, hagain, -, hheadings⟩ := parse_render_of_regular (isRegular_of_parse h)
  refine ⟨again, hagain, hheadings, ?_⟩
  rw [hheadings]
  constructor
  · intro hsame
    have hlength := congrArg List.length hsame
    rw [List.length_map, List.length_map] at hlength
    have hall := List.length_filter_eq_length_iff.1 hlength
    intro d hd
    simpa using hall d hd
  · intro hall
    rw [List.filter_eq_self.2]
    intro d hd
    simpa using hall d hd

/-- A warning without a message is lost, and its arrow goes to the error before it. -/
theorem headings_of_redisplay_blankWarning :
    let ds : List Diagnostic :=
      [{ severity := .error, message := "x" },
       { severity := .warning, message := "", location := some ⟨"a", 1, 2⟩ }]
    parse "error: x\nwarning:  \n --> a:1:2\n" = .ok ds ∧
      ∃ again, parse (render ds) = .ok again ∧
        again.map heading = (ds.filter fun d => !d.message.isEmpty).map heading ∧
        (again.map heading = ds.map heading ↔ ∀ d ∈ ds, d.message ≠ []) := by
  have hread : parse "error: x\nwarning:  \n --> a:1:2\n" = .ok
      [{ severity := .error, message := "x" },
       { severity := .warning, message := "", location := some ⟨"a", 1, 2⟩ }] := by
    decide
  exact ⟨hread, headings_of_redisplay hread⟩

/-- What is read of an output, shown and read again, does not change any more: shown and read once
more it is the same. -/
theorem parse_render_settles {output : Text} {ds : List Diagnostic} (h : parse output = .ok ds) :
    ∃ again, parse (render ds) = .ok again ∧ parse (render again) = .ok again := by
  -- One reading of what was shown is enough to have well-formed diagnostics, whatever is lost.
  obtain ⟨again, hagain, hwellFormed, -⟩ := parse_render_of_regular (isRegular_of_parse h)
  obtain ⟨before, sections, hcut, hread⟩ := exists_cut_render hwellFormed
  exact ⟨again, hagain, by rw [parse_of_cut hcut, hread]⟩

/-- A blank file, a blank suggestion and a blank message, all of which are lost; the gutter line of
the second diagnostic goes to the first. -/
theorem parse_render_settles_blanks :
    let ds : List Diagnostic :=
      [{ severity := .error, message := "x", location := some ⟨"", 1, 2⟩, suggestion := some "" },
       { severity := .warning, message := "", snippet := some "1 | y" }]
    parse "error: x\n -->  :1:2\n = help:  \nwarning:  \n1 | y\n" = .ok ds ∧
      ∃ again, parse (render ds) = .ok again ∧ parse (render again) = .ok again := by
  have hread : parse "error: x\n -->  :1:2\n = help:  \nwarning:  \n1 | y\n" = .ok
      [{ severity := .error, message := "x", location := some ⟨"", 1, 2⟩, suggestion := some "" },
       { severity := .warning, message := "", snippet := some "1 | y" }] := by
    decide
  exact ⟨hread, parse_render_settles hread⟩

end Diagnostic

end ContractBuild
