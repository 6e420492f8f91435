import ContractBuild.Diagnostic.Parser
import ContractBuild.Proofs.Diagnostic.Line

/-!
# When toolchain output is refused

The reader refuses an output for one reason only: a number of a location is too long. Of each
report just the first arrow is read, so an arrow that comes later, or stands before the first
header, is never in the way.

Main statement: `Diagnostic.parse_refuses_iff`.
-/

set_option autoImplicit false

namespace ContractBuild

open Text (TooManyDigits digitLimit)

/-! ## Arrows -/

/-- A number of the location that the arrow points to is too long to be read. -/
def Arrow.IsOverlong (a : Arrow) : Prop :=
  digitLimit < a.line.length ∨ digitLimit < a.column.length

theorem locate_refuses_iff (a : Arrow) : (∃ e, Draft.locate a = .error e) ↔ a.IsOverlong := by
  have hnumber : ∀ t : Text, (∃ e, Text.number t = .error e) ↔ digitLimit < t.length := by
    intro t
    constructor
    · rintro ⟨e, he⟩
      exact (Text.number_eq_error_iff.1 he).1
    · intro ht
      exact ⟨_, Text.number_eq_error_iff.2 ⟨ht, rfl⟩⟩
  unfold Arrow.IsOverlong
  rw [← hnumber, ← hnumber]
  unfold Draft.locate
  cases hline : Text.number a.line with
  | error e => simp [bind, Except.bind]
  | ok line =>
    cases hcolumn : Text.number a.column with
    | error e => simp [bind, Except.bind]
    | ok column => simp [bind, Except.bind, pure, Except.pure]

/-! ## Lines of a report -/

/-- The first arrow of a report that goes on with these lines is overlong. -/
def StartsOverlong (lines : List Text) : Prop :=
  ∃ before line rest arrow, lines = before ++ line :: rest ∧
    (∀ l ∈ before, Header.read? l = none ∧ Arrow.read? l = none) ∧
    Header.read? line = none ∧ Arrow.read? line = some arrow ∧ arrow.IsOverlong

/-- The first arrow of some report is overlong. -/
def HasOverlong (lines : List Text) : Prop :=
  ∃ before header rest, lines = before ++ header :: rest ∧
    (Header.read? header).isSome = true ∧ StartsOverlong rest

theorem not_startsOverlong_nil : ¬ StartsOverlong [] := by
  rintro ⟨before, line, rest, arrow, h, -⟩
  cases before <;> cases h

theorem not_startsOverlong_of_header {line : Text} (hline : (Header.read? line).isSome = true)
    (rest : List Text) : ¬ StartsOverlong (line :: rest) := by
  rintro ⟨before, line', rest', arrow, h, hbefore, hheader, -⟩
  cases before with
  | nil =>
    obtain ⟨rfl, -⟩ := List.cons.inj h
    rw [hheader] at hline
    cases hline
  | cons first before =>
    obtain ⟨rfl, -⟩ := List.cons.inj h
    rw [(hbefore _ List.mem_cons_self).1] at hline
    cases hline

theorem startsOverlong_of_arrow {line : Text} {arrow : Arrow} (hheader : Header.read? line = none)
    (harrow : Arrow.read? line = some arrow) (rest : List Text) :
    StartsOverlong (line :: rest) ↔ arrow.IsOverlong := by
  constructor
  · rintro ⟨before, line', rest', arrow', h, hbefore, -, harrow', hlong⟩
    cases before with
    | nil =>
      obtain ⟨rfl, -⟩ := List.cons.inj h
      rw [harrow] at harrow'
      obtain rfl := Option.some.inj harrow'
      exact hlong
    | cons first before =>
      obtain ⟨rfl, -⟩ := List.cons.inj h
      rw [(hbefore _ List.mem_cons_self).2] at harrow
      cases harrow
  · intro hlong
    exact ⟨[], line, rest, arrow, rfl, by simp, hheader, harrow, hlong⟩

theorem startsOverlong_of_plain {line : Text} (hheader : Header.read? line = none)
    (harrow : Arrow.read? line = none) (rest : List Text) :
    StartsOverlong (line :: rest) ↔ StartsOverlong rest := by
  constructor
  · rintro ⟨before, line', rest', arrow, h, hbefore, hheader', harrow', hlong⟩
    cases before with
    | nil =>
      obtain ⟨rfl, -⟩ := List.cons.inj h
      rw [harrow] at harrow'
      cases harrow'
    | cons first before =>
      obtain ⟨-, h⟩ := List.cons.inj h
      exact ⟨before, line', rest', arrow, h, fun l hl => hbefore l (List.mem_cons_of_mem _ hl),
        hheader', harrow', hlong⟩
  · rintro ⟨before, line', rest', arrow, rfl, hbefore, hrest⟩
    refine ⟨line :: before, line', rest', arrow, rfl, fun l hl => ?_, hrest⟩
    rcases List.mem_cons.1 hl with rfl | hl
    · exact ⟨hheader, harrow⟩
    · exact hbefore l hl

theorem hasOverlong_cons (line : Text) (rest : List Text) :
    HasOverlong (line :: rest) ↔
      ((Header.read? line).isSome = true ∧ StartsOverlong rest) ∨ HasOverlong rest := by
  constructor
  · rintro ⟨before, header, rest', h, hheader, hstarts⟩
    cases before with
    | nil =>
      obtain ⟨rfl, rfl⟩ := List.cons.inj h
      exact .inl ⟨hheader, hstarts⟩
    | cons first before =>
      obtain ⟨-, h⟩ := List.cons.inj h
      exact .inr ⟨before, header, rest', h, hheader, hstarts⟩
  · rintro (⟨hheader, hstarts⟩ | ⟨before, header, rest', rfl, hheader, hstarts⟩)
    · exact ⟨[], line, rest, rfl, hheader, hstarts⟩
    · exact ⟨line :: before, header, rest', rfl, hheader, hstarts⟩

/-! ## The reader -/

/-- A report is open and its first arrow is still to come. -/
def Reading.Awaits (r : Reading) : Prop :=
  ∃ d, r.draft = some d ∧ d.location = none

theorem Reading.awaits_iff {r : Reading} {d : Draft} (h : r.draft = some d) :
    r.Awaits ↔ d.location = none := by
  constructor
  · rintro ⟨d', hd', hloc⟩
    rw [h] at hd'
    obtain rfl := Option.some.inj hd'
    exact hloc
  · exact fun hloc => ⟨d, h, hloc⟩

/-- A line that is neither a header nor an arrow leaves the location as it is. -/
theorem Draft.add_of_no_arrow (d : Draft) {line : Text} (harrow : Arrow.read? line = none) :
    ∃ d', d.add line = .ok d' ∧ d'.location = d.location := by
  unfold Draft.add
  rw [harrow]
  simp only
  split
  · exact ⟨_, rfl, rfl⟩
  · split <;> exact ⟨_, rfl, rfl⟩

/-- The reader refuses lines exactly if the open report goes on with an overlong arrow, or a later
report has one. -/
theorem foldlM_refuses_iff (lines : List Text) (r : Reading) :
    (∃ e, lines.foldlM Reading.step r = .error e) ↔
      (r.Awaits ∧ StartsOverlong lines) ∨ HasOverlong lines := by
  induction lines generalizing r with
  | nil =>
    constructor
    · rintro ⟨e, he⟩
      cases he
    · rintro (⟨-, h⟩ | ⟨before, header, rest, h, -⟩)
      · exact absurd h not_startsOverlong_nil
      · cases before <;> cases h
  | cons line rest ih =>
    have hnext : ∀ r', Reading.step r line = .ok r' →
        ((∃ e, (line :: rest).foldlM Reading.step r = .error e) ↔
          (r'.Awaits ∧ StartsOverlong rest) ∨ HasOverlong rest) := by
      intro r' hr'
      rw [List.foldlM_cons, hr']
      exact ih r'
    rw [hasOverlong_cons]
    cases hheader : Header.read? line with
    | some header =>
      -- A new report: whatever was open, its first arrow is still to come.
      have hsome : (Header.read? line).isSome = true := by rw [hheader]; rfl
      have hnot := not_startsOverlong_of_header hsome rest
      rw [hnext { r.close with draft := some { header } } (by rw [Reading.step, hheader])]
      have hawaits : Reading.Awaits { r.close with draft := some { header } } := ⟨_, rfl, rfl⟩
      simp only [hawaits, hnot, true_and, and_false, false_or, Option.isSome_some]
    | none =>
      simp only [Option.isSome_none, Bool.false_eq_true, false_and, false_or]
      cases hdraft : r.draft with
      | none =>
        have hnot : ¬ r.Awaits := by
          rintro ⟨d, hd, -⟩
          rw [hdraft] at hd
          cases hd
        rw [hnext r (by rw [Reading.step, hheader, hdraft])]
        simp only [hnot, false_and, false_or]
      | some d =>
        have hstep : Reading.step r line =
            (d.add line).map fun d => { r with draft := some d } := by
          rw [Reading.step, hheader, hdraft]
        rw [Reading.awaits_iff hdraft]
        cases harrow : Arrow.read? line with
        | none =>
          obtain ⟨d', hadd, hloc⟩ := d.add_of_no_arrow harrow
          rw [hadd] at hstep
          rw [hnext _ hstep, Reading.awaits_iff rfl, hloc, startsOverlong_of_plain hheader harrow]
        | some arrow =>
          rw [startsOverlong_of_arrow hheader harrow, ← locate_refuses_iff]
          rw [Draft.add, harrow] at hstep
          cases hloc : d.location with
          | some location =>
            rw [hloc] at hstep
            rw [hnext _ hstep, Reading.awaits_iff rfl, hloc]
            simp only [reduceCtorEq, false_and]
          | none =>
            rw [hloc] at hstep
            cases hlocate : Draft.locate arrow with
            | error e =>
              simp only [hlocate, Except.map] at hstep
              refine ⟨fun _ => .inl ⟨rfl, e, rfl⟩, fun _ => ⟨e, ?_⟩⟩
              rw [List.foldlM_cons, hstep]
              rfl
            | ok location =>
              simp only [hlocate, Except.map] at hstep
              rw [hnext _ hstep, Reading.awaits_iff rfl]
              simp only [reduceCtorEq, false_and, exists_false, and_false]

/-- An output is refused exactly if the first arrow of some report in it has a number that is too
long. -/
theorem Diagnostic.parse_refuses_iff (output : Text) :
    (∃ e, Diagnostic.parse output = .error e) ↔ HasOverlong (Text.lines output) := by
  have hnot : ¬ Reading.Awaits {} := by
    rintro ⟨d, hd, -⟩
    cases hd
  have hrun := foldlM_refuses_iff (Text.lines output) {}
  simp only [hnot, false_and, false_or] at hrun
  rw [← hrun, Diagnostic.parse]
  cases (Text.lines output).foldlM Reading.step {} with
  | error e => exact ⟨fun _ => ⟨e, rfl⟩, fun _ => ⟨e, rfl⟩⟩
  | ok r =>
    constructor
    · rintro ⟨e, he⟩
      cases he
    · rintro ⟨e, he⟩
      cases he

end ContractBuild
