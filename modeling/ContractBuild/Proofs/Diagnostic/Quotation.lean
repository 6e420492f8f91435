import ContractBuild.Proofs.Diagnostic.Locality

/-!
# Quoted source

A compiler ends each row that it prints with a line feed, perhaps with a carriage return before it
(`Text.rows`), and quotes the source behind a gutter. The reader ends a line at other characters
too, and the source may hold any of them, so a quoted row may fall into several lines.

A gutter row is found in the snippet of its report, as it is, if and only if it holds no such
character. If it holds one, it is taken apart, and a part of it that is written like a header opens a
report of its own, whatever the source meant by it.

Main statement: `Diagnostic.exists_fate_of_gutterRow`.
-/

set_option autoImplicit false

namespace ContractBuild

open Text (strip IsLine isSeparator)

/-! ## Rows -/

namespace Text

/-- The rows of a text, which end at a line feed, perhaps with a carriage return before it. A row
that ends at the end of the text is one only if it is not empty. -/
def rows : Text → List Text
  | [] => []
  | '\r' :: '\n' :: t => [] :: rows t
  | '\n' :: t => [] :: rows t
  | c :: t => pushFirst c (rows t)

/-- A character that neither is a line feed nor stands before one, as a carriage return, goes to the
first of the rows behind it. -/
theorem rows_cons {c : Char} {t : Text} (hcrlf : c = '\r' → t.head? ≠ some '\n')
    (hnewline : c ≠ '\n') : rows (c :: t) = pushFirst c (rows t) := by
  rw [rows]
  · rintro u rfl rfl
    exact hcrlf rfl rfl
  · exact hnewline

theorem rows_cons_other {c : Char} (t : Text) (h : isSeparator c = false) :
    rows (c :: t) = pushFirst c (rows t) := by
  apply rows_cons
  · rintro rfl
    exact absurd h (by decide)
  · rintro rfl
    exact absurd h (by decide)

theorem rows_ne_nil (c : Char) (t : Text) : rows (c :: t) ≠ [] := by
  by_cases hnewline : c = '\n'
  · subst hnewline
    exact List.cons_ne_nil _ _
  by_cases hcrlf : c = '\r' ∧ t.head? = some '\n'
  · obtain ⟨rfl, hhead⟩ := hcrlf
    obtain ⟨u, rfl⟩ := List.head?_eq_some_iff.1 hhead
    exact List.cons_ne_nil _ _
  rw [rows_cons (fun hc hhead => hcrlf ⟨hc, hhead⟩) hnewline]
  cases rows t <;> exact List.cons_ne_nil _ _

theorem rows_eq_nil {t : Text} (h : rows t = []) : t = [] := by
  cases t with
  | nil => rfl
  | cons c t => exact absurd h (rows_ne_nil c t)

/-- The first row is all of the text, or a line end and the other rows follow it. -/
theorem exists_of_rows {t first : Text} {more : List Text} (h : rows t = first :: more) :
    (t = first ∧ more = []) ∨ ∃ rest, more = rows rest ∧
      (t = first ++ '\n' :: rest ∨ t = (first ++ ['\r']) ++ '\n' :: rest) := by
  fun_induction rows t generalizing first with
  | case1 => cases h
  | case2 t =>
    obtain ⟨rfl, rfl⟩ := List.cons.inj h
    exact .inr ⟨t, rfl, .inr rfl⟩
  | case3 t =>
    obtain ⟨rfl, rfl⟩ := List.cons.inj h
    exact .inr ⟨t, rfl, .inl rfl⟩
  | case4 c t _ _ ih =>
    cases hrows : rows t with
    | nil =>
      rw [hrows] at h
      obtain ⟨rfl, rfl⟩ := List.cons.inj h
      exact .inl ⟨by rw [rows_eq_nil hrows], rfl⟩
    | cons row more' =>
      rw [hrows] at h
      obtain ⟨rfl, rfl⟩ := List.cons.inj h
      rcases ih hrows with ⟨rfl, rfl⟩ | ⟨rest, rfl, rfl | rfl⟩
      · exact .inl ⟨rfl, rfl⟩
      · exact .inr ⟨rest, rfl, .inl rfl⟩
      · exact .inr ⟨rest, rfl, .inr rfl⟩

/-- A line feed ends a row that holds no separator. -/
theorem rows_append_newline {row : Text} (hrow : IsLine row) (t : Text) :
    rows (row ++ '\n' :: t) = row :: rows t := by
  induction row with
  | nil => rfl
  | cons c rest ih =>
    rw [List.cons_append, rows_cons_other _ (hrow c List.mem_cons_self),
      ih (hrow.subset (List.subset_cons_self _ _))]
    rfl

theorem rows_of_isLine {row : Text} (h : IsLine row) (hne : row ≠ []) : rows row = [row] := by
  induction row with
  | nil => exact absurd rfl hne
  | cons c rest ih =>
    rw [rows_cons_other _ (h c List.mem_cons_self)]
    cases rest with
    | nil => rfl
    | cons d rest =>
      rw [ih (h.subset (List.subset_cons_self _ _)) (List.cons_ne_nil _ _)]
      rfl

/-- Rows that are joined by line feeds are the rows of the text, unless one is empty. -/
theorem rows_join {ls : List Text} (h : ∀ l ∈ ls, IsLine l ∧ l ≠ []) :
    rows (join ['\n'] ls) = ls := by
  induction ls with
  | nil => rfl
  | cons row rest ih =>
    obtain ⟨hrow, hne⟩ := h row List.mem_cons_self
    cases rest with
    | nil =>
      rw [join_singleton]
      exact rows_of_isLine hrow hne
    | cons second rest =>
      rw [join_cons_cons, List.append_assoc, List.singleton_append, rows_append_newline hrow,
        ih fun l hl => h l (List.mem_cons_of_mem _ hl)]

/-! ## The lines of a row -/

/-- A carriage return at the end ends the last line, or leaves an empty one behind. -/
theorem lines_append_return (t : Text) :
    ∃ blank, (blank = [] ∨ blank = [[]]) ∧ lines (t ++ ['\r']) = lines t ++ blank := by
  induction t using linesInduction with
  | nil => exact ⟨[[]], .inr rfl, rfl⟩
  | crlf t ih =>
    obtain ⟨blank, hblank, heq⟩ := ih
    refine ⟨blank, hblank, ?_⟩
    rw [List.cons_append, List.cons_append, lines_crlf, lines_crlf, heq]
    rfl
  | separator c t hc hr ih =>
    obtain ⟨blank, hblank, heq⟩ := ih
    -- the separator is no carriage return before a line feed, also with the text continued
    have hr' : c = '\r' → (t ++ ['\r']).head? ≠ some '\n' := by
      intro hreturn
      cases t with
      | nil => decide
      | cons d t => exact hr hreturn
    refine ⟨blank, hblank, ?_⟩
    rw [List.cons_append, lines_cons_separator _ hc hr', lines_cons_separator t hc hr, heq]
    rfl
  | other c t hc ih =>
    obtain ⟨blank, hblank, heq⟩ := ih
    rw [List.cons_append, lines_cons_other _ hc, lines_cons_other _ hc, heq]
    cases t with
    | nil => exact ⟨[], .inl rfl, by rcases hblank with rfl | rfl <;> rfl⟩
    | cons d t =>
      exact ⟨blank, hblank, pushFirst_append c (lines_ne_nil (List.cons_ne_nil d t)) blank⟩

theorem filledLines_append_return (t : Text) : filledLines (t ++ ['\r']) = filledLines t := by
  obtain ⟨blank, hblank, hlines⟩ := lines_append_return t
  rw [filledLines, hlines, List.filter_append]
  rcases hblank with rfl | rfl <;> exact List.append_nil _

/-- The lines of a text are those that its rows fall into, row by row. -/
theorem filledLines_eq_flatMap_rows (t : Text) : filledLines t = (rows t).flatMap filledLines := by
  -- by induction on the rows, each of which is cut off at its line end
  generalize hrows : rows t = ls
  induction ls generalizing t with
  | nil => rw [rows_eq_nil hrows]; rfl
  | cons first more ih =>
    rcases exists_of_rows hrows with ⟨rfl, rfl⟩ | ⟨rest, rfl, rfl | rfl⟩
    · rw [List.flatMap_singleton]
    · rw [filledLines_append_newline, List.flatMap_cons, ← ih rest rfl]
    · rw [filledLines_append_newline, filledLines_append_return, List.flatMap_cons,
        ← ih rest rfl]

/-- A row falls into one line, the row itself, if it holds no separator. -/
theorem filledLines_of_isLine {row : Text} (h : IsLine row) (hne : row ≠ []) :
    filledLines row = [row] := by
  rw [filledLines, lines_of_isLine h hne, List.filter_cons_of_pos (by simpa using hne)]
  rfl

theorem filterMap_filledLines (t : Text) :
    (filledLines t).filterMap Header.read? = (lines t).filterMap Header.read? := by
  have hread : (fun line => if decide (line ≠ []) then Header.read? line else none) =
      Header.read? := by
    funext line
    cases line <;> rfl
  rw [filledLines, List.filterMap_filter, hread]

end Text

/-! ## Reports that go on -/

/-- The section with more lines behind it, none of which is a header. -/
def Section.extend (s : Section) (more : List Text) (h : ∀ l ∈ more, Header.read? l = none) :
    Section where
  line := s.line
  header := s.header
  body := s.body ++ more
  isHeader := s.isHeader
  noHeader l hl := (List.mem_append.1 hl).elim (s.noHeader l) (h l)

/-- Of two lists of lines, one after the other, the last section of the first list goes on with the
lines of the second list up to its first header. -/
theorem IsCut.append {ls ls' before before' : List Text} {sections sections' : List Section}
    (h : IsCut ls before sections) (h' : IsCut ls' before' sections') :
    ∃ before'' extended, IsCut (ls ++ ls') before'' (extended ++ sections') ∧
      before <+: before'' ∧ extended.map (·.header) = sections.map (·.header) ∧
        ∀ s ∈ extended.getLast?, before' ⊆ s.body := by
  obtain ⟨hbefore, rfl⟩ := h
  obtain ⟨hbefore', rfl⟩ := h'
  rcases List.eq_nil_or_concat sections with rfl | ⟨init, last, rfl⟩
  · refine ⟨before ++ before', [], ⟨?_, ?_⟩, List.prefix_append _ _, rfl, by rintro s ⟨⟩⟩
    · exact List.forall_mem_append.2 ⟨hbefore, hbefore'⟩
    · rw [List.flatMap_nil, List.append_nil, List.nil_append, List.append_assoc]
  · refine ⟨before, init ++ [last.extend before' hbefore'], ⟨hbefore, ?_⟩, List.prefix_rfl,
      ?_, ?_⟩
    · simp [Section.extend, Section.lines]
    · simp [Section.extend]
    · intro s hs
      rw [List.getLast?_concat] at hs
      obtain rfl := Option.some.inj hs
      exact List.subset_append_right _ _

theorem IsCut.hasLines_of_filled {t : Text} {before : List Text} {sections : List Section}
    (h : IsCut (Text.filledLines t) before sections) : ∀ s ∈ sections, s.HasLines := by
  intro s hs l hl
  have hfilled : l ∈ Text.filledLines t := by
    rw [h.eq]
    exact List.mem_append_right _ (List.mem_flatMap.2 ⟨s, hs, hl⟩)
  exact Text.isLine_of_mem_lines (Text.mem_filledLines_iff.1 hfilled).1

/-! ## What becomes of a row -/

namespace Diagnostic

/-- The rows that a diagnostic quotes. -/
def quotedRows (d : Diagnostic) : List Text :=
  (d.snippet.map Text.rows).getD []

/-- The headings in some rows: those of all header lines that the rows fall into. -/
def headings (rows : List Text) : List Header :=
  ((rows.flatMap Text.lines).filterMap Header.read?).map
    fun header => { header with message := strip header.message }

/-- The headings in rows are those of the diagnostics of their sections, also if the last of these
goes on behind the rows. -/
theorem map_heading_of_cut {rows before : List Text} {sections extended : List Section}
    (h : IsCut (rows.flatMap Text.filledLines) before sections)
    (hextended : extended.map (·.header) = sections.map (·.header)) :
    (extended.map Section.diagnostic).map heading = headings rows := by
  have hread : (rows.flatMap Text.lines).filterMap Header.read? =
      (rows.flatMap Text.filledLines).filterMap Header.read? := by
    simp only [List.filterMap_flatMap, Text.filterMap_filledLines]
  rw [headings, hread, h.filterMap_header, ← hextended, List.map_map, List.map_map]
  rfl

/-- A snippet quotes the gutter lines of its section. -/
theorem quotedRows_diagnostic {s : Section} (h : s.HasLines) :
    s.diagnostic.quotedRows = s.gutter := by
  have hgutter : ∀ line ∈ s.gutter, IsLine line ∧ line ≠ [] := by
    intro line hline
    obtain ⟨hbody, hkind⟩ := List.mem_filter.1 hline
    refine ⟨h line (List.mem_cons_of_mem _ hbody), ?_⟩
    rintro rfl
    cases hkind
  rw [quotedRows]
  show ((snippetOf s.gutter).map Text.rows).getD [] = _
  rw [snippetOf]
  split
  · rename_i hnone
    exact (List.isEmpty_iff.1 hnone).symm
  · exact Text.rows_join hgutter

/-- The diagnostics that are read of an output with this row in it: those of the headers before the
row, those of the headers in it, and those of the headers after it. -/
structure ReadsRow (before : List Text) (row : Text) (after : List Text)
    (earlier opened later : List Diagnostic) : Prop where
  earlier_headings : earlier.map heading = headings before
  opened_headings : opened.map heading = headings [row]
  later_headings : later.map heading = headings after
  /-- The report that is open at the row quotes it as it is exactly if it holds no separator. -/
  quoted_iff : ∀ d ∈ earlier.getLast?, (row ∈ d.quotedRows ↔ IsLine row)
  /-- A row that holds no separator opens no report. -/
  opened_eq_nil : IsLine row → opened = []

/-- A gutter row that holds no separator is a line, and no header. -/
theorem cut_of_plainRow {row : Text} (hgutter : isGutter row = true) (hline : IsLine row)
    {before : List Text} {sections : List Section}
    (h : IsCut (Text.filledLines row) before sections) : before = [row] ∧ sections = [] := by
  have hne : row ≠ [] := by
    rintro rfl
    cases hgutter
  have hrow : IsCut [row] [row] [] :=
    ⟨List.forall_mem_singleton.2 (apart_of_isGutter hgutter).1, rfl⟩
  rw [Text.filledLines_of_isLine hline hne] at h
  exact cut_unique hrow h

/-- What becomes of a gutter row. The report that is open there quotes the row as it is if and only
if it holds no separator besides its line end, and all headers among the lines that it falls into
open reports of their own. -/
theorem exists_fate_of_gutterRow {output : Text} {ds : List Diagnostic} {before after : List Text}
    {row : Text} (hread : parse output = .ok ds) (hrows : Text.rows output = before ++ row :: after)
    (hgutter : isGutter row = true) :
    ∃ earlier opened later, ds = earlier ++ (opened ++ later) ∧
      ReadsRow before row after earlier opened later := by
  obtain ⟨front, sections, hbefore⟩ := exists_cut (before.flatMap Text.filledLines)
  obtain ⟨parts, inside, hrow⟩ := exists_cut (Text.filledLines row)
  obtain ⟨rest, later, hafter⟩ := exists_cut (after.flatMap Text.filledLines)
  -- what the row and the rows after it begin with belongs to the report that is open at the row
  obtain ⟨parts', opened, hbehind, hparts, hopened, -⟩ := hrow.append hafter
  obtain ⟨front', earlier, hcut, -, hearlier, hlast⟩ := hbefore.append hbehind
  have hfilled : Text.filledLines output = before.flatMap Text.filledLines ++
      (Text.filledLines row ++ after.flatMap Text.filledLines) := by
    rw [Text.filledLines_eq_flatMap_rows, hrows, List.flatMap_append, List.flatMap_cons]
  rw [← hfilled] at hcut
  rw [parse_of_filledCut hcut] at hread
  obtain ⟨-, rfl⟩ := readSections_eq_ok_iff.1 hread
  have hquoted : ∀ d ∈ (earlier.map Section.diagnostic).getLast?,
      (row ∈ d.quotedRows ↔ IsLine row) := by
    intro d hd
    rw [List.getLast?_map] at hd
    obtain ⟨s, hs, rfl⟩ := Option.map_eq_some_iff.1 hd
    have hlines : s.HasLines :=
      hcut.hasLines_of_filled s (List.mem_append_left _ (List.mem_of_getLast? hs))
    rw [quotedRows_diagnostic hlines]
    constructor
    · intro hmem
      exact hlines row (List.mem_cons_of_mem _ (List.mem_filter.1 hmem).1)
    · intro hline
      -- the row is one line, before any header in it, so the section that is open goes on with it
      have hmem : row ∈ parts' := hparts.subset (by simp [(cut_of_plainRow hgutter hline hrow).1])
      exact List.mem_filter.2 ⟨hlast s hs hmem, hgutter⟩
  have hplain : IsLine row → opened.map Section.diagnostic = [] := by
    intro hline
    rw [(cut_of_plainRow hgutter hline hrow).2] at hopened
    rw [List.map_eq_nil_iff.1 hopened, List.map_nil]
  refine ⟨earlier.map Section.diagnostic, opened.map Section.diagnostic,
    later.map Section.diagnostic, by rw [List.map_append, List.map_append],
    map_heading_of_cut hbefore hearlier, ?_, map_heading_of_cut hafter rfl, hquoted, hplain⟩
  rw [← List.flatMap_singleton (f := Text.filledLines) (x := row)] at hrow
  exact map_heading_of_cut hrow hopened

/-- An error that quotes a source line with a form feed and the words of a header behind it. -/
def formFeedOutput : Text :=
  "error: x\n10 | a\x0cerror: b\n"

/-- The row that is quoted there. -/
def formFeedRow : Text :=
  "10 | a\x0cerror: b"

/-- The report that is open at the row does not quote it, and the row opens a report. -/
theorem exists_fate_of_gutterRow_formFeed :
    let ds : List Diagnostic := [{ Diagnostic.error "x" with snippet := some "10 | a" }, .error "b"]
    parse formFeedOutput = .ok ds ∧
      Text.rows formFeedOutput = ["error: x".toList] ++ formFeedRow :: [] ∧
      isGutter formFeedRow = true ∧
      ∃ earlier opened later, ds = earlier ++ (opened ++ later) ∧
        ReadsRow ["error: x"] formFeedRow [] earlier opened later ∧
        (∃ d ∈ earlier.getLast?, formFeedRow ∉ d.quotedRows) ∧ opened ≠ [] := by
  intro ds
  have hread : parse formFeedOutput = .ok ds := by decide +kernel
  have hrows : Text.rows formFeedOutput = ["error: x".toList] ++ formFeedRow :: [] := by
    decide +kernel
  have hgutter : isGutter formFeedRow = true := by decide +kernel
  have hbroken : ¬ IsLine formFeedRow := by decide +kernel
  obtain ⟨earlier, opened, later, hds, hfate⟩ := exists_fate_of_gutterRow hread hrows hgutter
  refine ⟨hread, hrows, hgutter, earlier, opened, later, hds, hfate, ?_, ?_⟩
  · have hearlier : earlier ≠ [] := by
      rintro rfl
      exact absurd hfate.earlier_headings (by decide +kernel)
    obtain ⟨d, hd⟩ := Option.ne_none_iff_exists'.1 (mt List.getLast?_eq_none_iff.1 hearlier)
    exact ⟨d, hd, fun hquoted => hbroken ((hfate.quoted_iff d hd).1 hquoted)⟩
  · rintro rfl
    exact absurd hfate.opened_headings (by decide +kernel)

end Diagnostic

end ContractBuild
