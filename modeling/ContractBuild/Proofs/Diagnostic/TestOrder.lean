import ContractBuild.Proofs.Diagnostic.Pattern

/-!
# The order of the tests

A reader that goes by the patterns: a line that is no header undergoes three tests, and the first
one that it passes says what the report takes from it. No line passes two of them, so the order of
the tests makes no difference: in any order the reader gives the same as the one with the
recognisers.

Main statement: `patterns_read_one_way`.
-/

set_option autoImplicit false

namespace ContractBuild

open Text (strip isBlank IsLine Blanks TooManyDigits lead?)

/-! ## The tests -/

/-- A test that a line of a report undergoes, unless it is a header. -/
inductive LineTest
  | arrow
  | help
  | gutter
  deriving DecidableEq, Repr

namespace LineTest

/-- A line passes the test. -/
def passes (line : Text) : LineTest → Bool
  | arrow => (Pattern.arrow.whole? line).isSome
  | help => (Pattern.help.whole? line).isSome
  | gutter => Pattern.gutter.begins line

/-- What becomes of a report by a line that passes the test. -/
def take? (d : Draft) (line : Text) : LineTest → Option (Except TooManyDigits Draft)
  | arrow =>
    ((Pattern.arrow.whole? line).bind Arrow.ofGroups?).map fun a =>
      match d.location with
      | some _ => .ok d
      | none => (Draft.locate a).map fun l => { d with location := some l }
  | help =>
    ((Pattern.help.whole? line).bind helpOfGroups?).map fun text =>
      .ok { d with suggestion := some (strip text) }
  | gutter =>
    if Pattern.gutter.begins line then some (.ok { d with gutter := line :: d.gutter }) else none

end LineTest

/-! ## A reader with the patterns -/

/-- Takes a line that is no header into the report, by the first of the tests that it passes. -/
def Draft.addInOrder (tests : List LineTest) (d : Draft) (line : Text) :
    Except TooManyDigits Draft :=
  (tests.findSome? (LineTest.take? d line)).getD (.ok d)

/-- Takes one line in, by the patterns. -/
def Reading.stepInOrder (tests : List LineTest) (r : Reading) (line : Text) :
    Except TooManyDigits Reading :=
  match (Pattern.header.whole? line).bind Header.ofGroups? with
  | some header => .ok { r.close with draft := some { header } }
  | none =>
    match r.draft with
    | some d => (d.addInOrder tests line).map fun d => { r with draft := some d }
    | none => .ok r

/-- The diagnostics in the output of a toolchain, read by the patterns. -/
def Diagnostic.parseInOrder (tests : List LineTest) (output : Text) :
    Except TooManyDigits (List Diagnostic) :=
  ((Text.lines output).foldlM (Reading.stepInOrder tests) {}).map Reading.result

/-! ## The tests are apart -/

theorem Header.not_isBlank_of_head? {line : Text} {h : Header} (hread : Header.read? line = some h)
    {c : Char} (hc : line.head? = some c) : isBlank c = false := by
  rw [Header.head?_of_read? hread] at hc
  cases hs : h.severity <;> rw [hs] at hc <;> cases hc <;> decide

/-- A help line that is a header too begins with the word that it has in common with headers. -/
theorem helpPrefix_of_header {line t : Text} {h : Header} (hheader : Header.read? line = some h)
    (hhelp : helpText? line = some t) : ("help: " : Text) <+: line := by
  obtain ⟨-, before, hbefore, hline⟩ := helpText?_eq_some_iff.1 hhelp
  -- No blank stands in front of a header, and no header begins with an equals sign.
  have hnone : before = [] := by
    cases before with
    | nil => rfl
    | cons b before =>
      have hhead : line.head? = some b := by
        rcases hline with rfl | rfl <;> rfl
      have hblank := hbefore b List.mem_cons_self
      rw [Header.not_isBlank_of_head? hheader hhead] at hblank
      cases hblank
  subst hnone
  rcases hline with rfl | rfl
  · exact List.prefix_append _ _
  · have hhead := Header.head?_of_read? hheader
    cases hs : h.severity <;> rw [hs] at hhead <;> cases hhead

namespace LineTest

variable {line : Text} {d : Draft}

/-- What passes a test is what its recogniser knows. -/
theorem passes_iff (hline : IsLine line) {t : LineTest} : t.passes line = true ↔
    match t with
    | arrow => ∃ a, Arrow.read? line = some a
    | help => ∃ text, helpText? line = some text
    | gutter => isGutter line = true := by
  cases t with
  | arrow => rw [passes, Pattern.whole?_arrow hline, Option.isSome_map, Option.isSome_iff_exists]
  | help => rw [passes, Pattern.whole?_help hline, Option.isSome_map, Option.isSome_iff_exists]
  | gutter => exact Pattern.begins_gutter_iff

/-- A line passes one test at most. -/
theorem apart (hline : IsLine line) {s t : LineTest} (hs : s.passes line = true)
    (ht : t.passes line = true) : s = t := by
  rw [passes_iff hline] at hs ht
  -- What the first test knows, no other recogniser knows.
  cases s with
  | arrow =>
    obtain ⟨a, ha⟩ := hs
    obtain ⟨-, hhelp, hgutter⟩ := Arrow.apart ha
    cases t with
    | arrow => rfl
    | help => simp [hhelp] at ht
    | gutter => simp [hgutter] at ht
  | help =>
    obtain ⟨text, htext⟩ := hs
    obtain ⟨harrow, hgutter⟩ := apart_of_helpText? htext
    cases t with
    | arrow => simp [harrow] at ht
    | help => rfl
    | gutter => simp [hgutter] at ht
  | gutter =>
    obtain ⟨-, harrow, hhelp⟩ := apart_of_isGutter hs
    cases t with
    | arrow => simp [harrow] at ht
    | help => simp [hhelp] at ht
    | gutter => rfl

/-- A header passes the test for help lines at most. -/
theorem helpPrefix_of_passes (hline : IsLine line) {t : LineTest} {h : Header}
    (hheader : Header.read? line = some h) (ht : t.passes line = true) :
    ("help: " : Text) <+: line := by
  rw [passes_iff hline] at ht
  cases t with
  | arrow =>
    obtain ⟨a, ha⟩ := ht
    rw [(Arrow.apart ha).1] at hheader
    cases hheader
  | help =>
    obtain ⟨text, htext⟩ := ht
    exact helpPrefix_of_header hheader htext
  | gutter =>
    rw [(apart_of_isGutter ht).1] at hheader
    cases hheader

/-- A report takes something from lines that pass the test only. -/
theorem passes_of_take? {t : LineTest} (h : (t.take? d line).isSome = true) :
    t.passes line = true := by
  cases t with
  | arrow =>
    rw [take?, Option.isSome_map] at h
    exact Option.isSome_of_isSome_bind h
  | help =>
    rw [take?, Option.isSome_map] at h
    exact Option.isSome_of_isSome_bind h
  | gutter =>
    rw [passes]
    rw [take?] at h
    split at h
    · assumption
    · cases h

end LineTest

/-! ## The order makes no difference -/

/-- If only one member of a list can give a result, the first result does not depend on the
order. -/
theorem findSome?_eq_of_apart {α β : Type} {f : α → Option β}
    (hapart : ∀ a b, (f a).isSome = true → (f b).isSome = true → a = b) {l l' : List α}
    (hmem : ∀ a, a ∈ l ↔ a ∈ l') : l.findSome? f = l'.findSome? f := by
  cases hl : l.findSome? f with
  | none =>
    symm
    rw [List.findSome?_eq_none_iff] at hl ⊢
    intro a ha
    exact hl a ((hmem a).2 ha)
  | some b =>
    obtain ⟨a, ha, hb⟩ := List.exists_of_findSome?_eq_some hl
    cases hl' : l'.findSome? f with
    | none =>
      rw [List.findSome?_eq_none_iff.1 hl' a ((hmem a).1 ha)] at hb
      cases hb
    | some b' =>
      obtain ⟨a', -, hb'⟩ := List.exists_of_findSome?_eq_some hl'
      -- the members that give the two results are the same one
      obtain rfl := hapart a a' (by rw [hb]; rfl) (by rw [hb']; rfl)
      rw [← hb, ← hb']

section Order

variable {line : Text} {tests : List LineTest}

/-- In the order in which the tests stand in the reader, they give what it takes from a line. -/
theorem Draft.addInOrder_usual (hline : IsLine line) (d : Draft) :
    d.addInOrder [.arrow, .help, .gutter] line = d.add line := by
  have harrow := Pattern.bind_whole? Arrow.ofGroups?_groups (Pattern.whole?_arrow hline)
  have hhelp := Pattern.bind_whole? helpOfGroups?_group (Pattern.whole?_help hline)
  have hgutter : Pattern.gutter.begins line = true ↔ isGutter line = true :=
    Pattern.begins_gutter_iff
  unfold Draft.addInOrder Draft.add
  rw [List.findSome?_cons, List.findSome?_cons, List.findSome?_singleton]
  simp only [LineTest.take?, harrow, hhelp, hgutter]
  cases Arrow.read? line with
  | some a => rfl
  | none =>
    cases helpText? line with
    | some text => rfl
    | none => cases isGutter line <;> rfl

theorem Draft.addInOrder_eq (hline : IsLine line) (htests : ∀ t, t ∈ tests) (d : Draft) :
    d.addInOrder tests line = d.add line := by
  have hapart : ∀ s t : LineTest, (s.take? d line).isSome = true → (t.take? d line).isSome = true →
      s = t := by
    intro s t hs ht
    exact LineTest.apart hline (LineTest.passes_of_take? hs) (LineTest.passes_of_take? ht)
  -- a list that holds all tests has the same members as the usual one
  have husual : ∀ t : LineTest, t ∈ tests ↔ t ∈ [.arrow, .help, .gutter] := by
    intro t
    exact iff_of_true (htests t) (by cases t <;> decide)
  rw [← addInOrder_usual hline, addInOrder, findSome?_eq_of_apart hapart husual]
  rfl

theorem Reading.stepInOrder_eq (hline : IsLine line) (htests : ∀ t, t ∈ tests) (r : Reading) :
    r.stepInOrder tests line = r.step line := by
  have hheader := Pattern.bind_whole? Header.ofGroups?_groups (Pattern.whole?_header hline)
  unfold Reading.stepInOrder Reading.step
  rw [hheader]
  cases Header.read? line with
  | some h => rfl
  | none =>
    cases r.draft with
    | some d => simp only [Draft.addInOrder_eq hline htests]
    | none => rfl

theorem Reading.foldlM_stepInOrder (htests : ∀ t, t ∈ tests) {lines : List Text}
    (hlines : ∀ l ∈ lines, IsLine l) (r : Reading) :
    lines.foldlM (Reading.stepInOrder tests) r = lines.foldlM Reading.step r := by
  -- By induction on the lines, for every reading, since each line changes it.
  induction lines generalizing r with
  | nil => rfl
  | cons line rest ih =>
    obtain ⟨hline, hrest⟩ := List.forall_mem_cons.1 hlines
    rw [List.foldlM_cons, List.foldlM_cons, stepInOrder_eq hline htests]
    cases r.step line with
    | error e => rfl
    | ok r' => exact ih hrest r'

end Order

/-! ## One way to read -/

/-- A line is read in one way only. -/
structure ReadsOneWay (line : Text) : Prop where
  header : Pattern.header.MatchesOneWay line Header.groups fun h => h.IsProper ∧ line = h.text
  arrow : Pattern.arrow.MatchesOneWay line Arrow.groups fun a => a.IsProper ∧
    ∃ before after, Blanks before ∧ Blanks after ∧ line = before ++ ("--> " ++ (a.text ++ after))
  /-- The file of an arrow is everything, behind the mark, up to the second colon from the end. -/
  file : ∀ a : Arrow, Pattern.arrow.whole? line = some a.groups → ∀ u v w,
    line = u ++ ':' :: (v ++ ':' :: w) → ':' ∉ v → ':' ∉ w →
      ∃ before, Blanks before ∧ u = before ++ ("--> " ++ a.file)
  help : Pattern.help.MatchesOneWay line (fun t => [(1, t)]) fun t => t ≠ [] ∧
    ∃ before, Blanks before ∧
      (line = before ++ ("help: " ++ t) ∨ line = before ++ ("= help: " ++ t))
  apart : ∀ s t : LineTest, s.passes line = true → t.passes line = true → s = t
  /-- Only a help line can be a header too. -/
  header_apart : ∀ groups, Pattern.header.whole? line = some groups →
    ∀ t : LineTest, t.passes line = true → ("help: " : Text) <+: line

theorem readsOneWay_of_isLine {line : Text} (hline : IsLine line) : ReadsOneWay line where
  header := Pattern.matchesOneWay_header hline
  arrow := Pattern.matchesOneWay_arrow hline
  file a ha u v w hcut hv hw := by
    obtain ⟨hproper, before, after, hbefore, hafter, hwritten⟩ :=
      ((Pattern.matchesOneWay_arrow hline).match_iff a).1 ha
    exact ⟨before, hbefore, Arrow.file_of_cut hproper hafter (hwritten.symm.trans hcut) hv hw⟩
  help := Pattern.matchesOneWay_help hline
  apart _ _ hs ht := LineTest.apart hline hs ht
  header_apart groups hgroups t ht := by
    rw [Pattern.whole?_header hline, Option.map_eq_some_iff] at hgroups
    obtain ⟨h, hheader, -⟩ := hgroups
    exact LineTest.helpPrefix_of_passes hline hheader ht

/-- Every line is read in one way only: the patterns match with the parts that the line is written
from, which are determined by it, and no line passes two of the tests. So a reader that goes by the
patterns gives the diagnostics of `Diagnostic.parse`, in whatever order it tries the tests. -/
theorem patterns_read_one_way :
    (∀ line, IsLine line → ReadsOneWay line) ∧
      ∀ tests : List LineTest, (∀ t, t ∈ tests) → ∀ output,
        Diagnostic.parseInOrder tests output = Diagnostic.parse output := by
  constructor
  · intro line hline
    exact readsOneWay_of_isLine hline
  · intro tests htests output
    have hlines : ∀ l ∈ Text.lines output, IsLine l := fun l hl => Text.isLine_of_mem_lines hl
    rw [Diagnostic.parseInOrder, Reading.foldlM_stepInOrder htests hlines, Diagnostic.parse]

/-- An arrow to a file with a colon in its name. -/
def driveLine : Text :=
  " --> C:/lib.rs:10:5"

theorem patterns_read_one_way_drive :
    Pattern.arrow.whole? driveLine = some (Arrow.groups ⟨"C:/lib.rs", "10", "5"⟩) ∧
      (∃ before, Blanks before ∧ " --> C:/lib.rs".toList = before ++ ("--> " ++ "C:/lib.rs")) ∧
      Diagnostic.parseInOrder [.gutter, .help, .arrow] ("error: gone\n" ++ driveLine) =
        Diagnostic.parse ("error: gone\n" ++ driveLine) := by
  have hmatch : Pattern.arrow.whole? driveLine =
      some (Arrow.groups ⟨"C:/lib.rs", "10", "5"⟩) := by decide +kernel
  have hreads := patterns_read_one_way.1 driveLine (by decide)
  refine ⟨hmatch, ?_, ?_⟩
  · exact hreads.file _ hmatch " --> C:/lib.rs" "10" "5" (by decide) (by decide) (by decide)
  · apply patterns_read_one_way.2
    intro t
    cases t <;> decide

end ContractBuild
