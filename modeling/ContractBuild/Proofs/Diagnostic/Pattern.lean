import ContractBuild.Diagnostic.Parser
import ContractBuild.Proofs.Diagnostic.Line
import ContractBuild.Proofs.Text.Pattern

/-!
# The patterns of the lines

The kinds of line as patterns. A pattern is searched for with runs that stop early and parts that
are left out, and each recogniser of a kind of line cuts the line in one go; both give the same
parts, because there is only one way to cut a line into the parts of its kind.

Main statements: what each pattern takes are the lines of its kind (`Pattern.takes_header_iff`,
`Pattern.takes_arrow_iff`, `Pattern.takes_help_iff`, `Pattern.begins_gutter_iff`), each in one way
only (`Pattern.matchesOneWay_header` and the like), and the file of an arrow reaches to the second
colon from the end (`Arrow.file_of_cut`).
-/

set_option autoImplicit false

namespace ContractBuild

open Text (isBlank isDigit IsLine Blanks Digits)

/-! ## The patterns -/

namespace Pattern

/-- White space, or none. -/
def blanks : Pattern :=
  run false isBlank 0

/-- A number. -/
def digits : Pattern :=
  run false isDigit 1

/-- A code in its brackets, or neither: group 2 is both and group 3 the code alone. -/
def code : Pattern :=
  optional (group 2 (seq (word "[") (seq (group 3 (without false ']')) (word "]"))))

/-- A header: group 1 is the severity and group 4 the message. -/
def header : Pattern :=
  seq (group 1 (oneOf (Severity.all.map (·.name)))) <| seq code <|
    seq (word ": ") (group 4 (without false '\n'))

/-- An arrow: group 1 is the file, which is taken lazily, and groups 2 and 3 are the numbers. -/
def arrow : Pattern :=
  seq blanks <| seq (word "--> ") <| seq (group 1 (without true '\n')) <|
    seq (word ":") <| seq (group 2 digits) <| seq (word ":") <| seq (group 3 digits) blanks

/-- A help line: group 1 is the text. -/
def help : Pattern :=
  seq blanks <| seq (optional (word "= ")) <| seq (word "help: ") (group 1 (without false '\n'))

/-- The beginning of a gutter line: group 1 is the number with the blanks behind it. -/
def gutter : Pattern :=
  seq blanks <| seq (optional (group 1 (seq digits blanks))) (word "|")

theorem takesJust_blanks : blanks.TakesJust Blanks := by
  intro t groups
  rw [blanks, takes_run_iff, and_iff_right (Nat.zero_le _)]

theorem takesJust_digits : digits.TakesJust Digits := by
  intro t groups
  rw [digits, takes_run_iff, Nat.one_le_iff_ne_zero, ne_eq, List.length_eq_zero_iff, and_left_comm,
    and_assoc]

end Pattern

theorem Text.newline_notMem {line : Text} (h : IsLine line) : '\n' ∉ line := by
  intro hmem
  exact absurd (h '\n' hmem) (by decide)

/-! ## Headers -/

namespace Header

/-- The groups of a code: with its brackets, and alone. -/
def codeGroups : Option Text → Groups
  | some code => [(2, writtenCode (some code)), (3, code)]
  | none => []

/-- The groups of a header. -/
def groups (h : Header) : Groups :=
  (1, h.severity.name) :: (codeGroups h.code ++ [(4, h.message)])

/-- The header that the groups of a match tell. -/
def ofGroups? (groups : Groups) : Option Header := do
  let severity ← (groups.lookup 1).bind Severity.ofName?
  let message ← groups.lookup 4
  return ⟨severity, groups.lookup 3, message⟩

theorem ofGroups?_groups (h : Header) : ofGroups? h.groups = some h := by
  obtain ⟨severity, code, message⟩ := h
  have hseverity : ((groups ⟨severity, code, message⟩).lookup 1).bind Severity.ofName? =
      some severity :=
    Severity.ofName?_name severity
  rw [ofGroups?, hseverity]
  cases code <;> rfl

end Header

theorem Severity.mem_names_iff {t : Text} :
    t ∈ Severity.all.map (·.name) ↔ ∃ s : Severity, t = s.name := by
  rw [List.mem_map]
  constructor
  · rintro ⟨s, -, rfl⟩
    exact ⟨s, rfl⟩
  · rintro ⟨s, rfl⟩
    exact ⟨s, by cases s <;> decide, rfl⟩

namespace Pattern

variable {t line : Text} {groups : Groups}

theorem takes_bracketed_iff :
    (seq (word "[") (seq (group 3 (without false ']')) (word "]"))).Takes t groups ↔
      ∃ c, (c ≠ [] ∧ ']' ∉ c) ∧ t = Header.writtenCode (some c) ∧ groups = [(3, c)] := by
  rw [takes_word_seq_iff]
  simp only [(takesJust_without false ']').seq_group_iff, takesJust_word "]" _ _]
  constructor
  · rintro ⟨_, rfl, c, _, _, hproper, rfl, rfl, rfl, rfl⟩
    exact ⟨c, hproper, rfl, rfl⟩
  · rintro ⟨c, hproper, rfl, rfl⟩
    exact ⟨c ++ "]", rfl, c, "]", [], hproper, rfl, rfl, rfl, rfl⟩

theorem takes_code_iff :
    code.Takes t groups ↔ ∃ c : Option Text, (∀ d ∈ c, d ≠ [] ∧ ']' ∉ d) ∧
      t = Header.writtenCode c ∧ groups = Header.codeGroups c := by
  rw [code, takes_optional_iff, takes_group_iff]
  simp only [takes_bracketed_iff]
  constructor
  · rintro (⟨_, rfl, c, hproper, rfl, rfl⟩ | ⟨rfl, rfl⟩)
    · exact ⟨some c, by simpa using hproper, rfl, rfl⟩
    · exact ⟨none, by simp, rfl, rfl⟩
  · rintro ⟨c, hproper, rfl, rfl⟩
    cases c with
    | none => exact .inr ⟨rfl, rfl⟩
    | some c => exact .inl ⟨_, rfl, c, hproper c rfl, rfl, rfl⟩

/-- A code in its brackets, or neither, and then what the next pattern takes. -/
theorem takes_code_seq_iff {p : Pattern} :
    (seq code p).Takes t groups ↔ ∃ (c : Option Text) (u : Text) (rest : Groups),
      (∀ d ∈ c, d ≠ [] ∧ ']' ∉ d) ∧ t = Header.writtenCode c ++ u ∧
        groups = Header.codeGroups c ++ rest ∧ p.Takes u rest := by
  rw [takes_seq_iff]
  simp only [takes_code_iff]
  constructor
  · rintro ⟨_, u, _, rest, rfl, rfl, ⟨c, hproper, rfl, rfl⟩, hp⟩
    exact ⟨c, u, rest, hproper, rfl, rfl, hp⟩
  · rintro ⟨c, u, rest, hproper, rfl, rfl, hp⟩
    exact ⟨_, u, _, rest, rfl, rfl, ⟨c, hproper, rfl, rfl⟩, hp⟩

/-- The pattern of headers takes a line just if the line is written from the parts of a header, and
keeps these parts. -/
theorem takes_header_iff (hline : IsLine line) :
    header.Takes line groups ↔
      ∃ h : Header, (h.IsProper ∧ line = h.text) ∧ groups = h.groups := by
  -- The pattern is opened part by part. That no part goes beyond the line says nothing more.
  rw [header, (takesJust_oneOf _).seq_group_iff]
  simp only [Severity.mem_names_iff, takes_code_seq_iff, takes_word_seq_iff,
    (takesJust_without false '\n').group_iff]
  constructor
  · rintro ⟨_, _, _, ⟨severity, rfl⟩, rfl, rfl, code, _, _, hcode, rfl, rfl, message, rfl, ⟨hne, -⟩,
      rfl⟩
    exact ⟨⟨severity, code, message⟩, ⟨⟨hne, hcode⟩, rfl⟩, rfl⟩
  · rintro ⟨⟨severity, code, message⟩, ⟨⟨hne, hcode⟩, rfl⟩, rfl⟩
    have hrow : '\n' ∉ message := by
      intro hmem
      exact Text.newline_notMem hline (by simp [Header.text, hmem])
    exact ⟨_, _, _, ⟨severity, rfl⟩, rfl, rfl, code, _, _, hcode, rfl, rfl, message, rfl,
      ⟨hne, hrow⟩, rfl⟩

end Pattern

/-! ## Arrows, help lines and gutters -/

namespace Arrow

/-- The groups of an arrow. -/
def groups (a : Arrow) : Groups :=
  [(1, a.file), (2, a.line), (3, a.column)]

/-- The arrow that the groups of a match tell. -/
def ofGroups? (groups : Groups) : Option Arrow := do
  let file ← groups.lookup 1
  let line ← groups.lookup 2
  let column ← groups.lookup 3
  return ⟨file, line, column⟩

theorem ofGroups?_groups (a : Arrow) : ofGroups? a.groups = some a := rfl

theorem colon_notMem_of_digits {t : Text} (h : Digits t) : ':' ∉ t := by
  intro hmem
  have hdigit := h.2 ':' hmem
  revert hdigit
  decide

/-- The file of an arrow is all that stands, behind the mark, before the second colon from the
end. -/
theorem file_of_cut {a : Arrow} {before after u v w : Text} (ha : a.IsProper)
    (hafter : Blanks after)
    (h : before ++ ("--> " ++ (a.text ++ after)) = u ++ ':' :: (v ++ ':' :: w))
    (hv : ':' ∉ v) (hw : ':' ∉ w) : u = before ++ ("--> " ++ a.file) := by
  have hend : ':' ∉ a.column ++ after := by
    intro hmem
    rcases List.mem_append.1 hmem with hcolumn | hblank
    · exact colon_notMem_of_digits ha.column hcolumn
    · have := hafter ':' hblank
      revert this
      decide
  -- From behind, the last colon stands before the column and the one before it behind the file.
  have hcut : (u ++ ':' :: v) ++ ':' :: w =
      ((before ++ ("--> " ++ a.file)) ++ ':' :: a.line) ++ ':' :: (a.column ++ after) := by
    simpa [text] using h.symm
  obtain ⟨hfront, -⟩ := Text.cut_last_inj hcut hw hend
  exact (Text.cut_last_inj hfront hv (colon_notMem_of_digits ha.line)).1

end Arrow

/-- The text of a help line that the groups of a match tell. -/
def helpOfGroups? (groups : Groups) : Option Text :=
  groups.lookup 1

theorem helpOfGroups?_group (t : Text) : helpOfGroups? [(1, t)] = some t := rfl

namespace Pattern

variable {t line : Text} {groups : Groups}

/-- The pattern of arrows takes a line just if the line is written from the parts of an arrow, with
blanks before and after, and keeps these parts. -/
theorem takes_arrow_iff (hline : IsLine line) :
    arrow.Takes line groups ↔ ∃ a : Arrow, (a.IsProper ∧ ∃ before after, Blanks before ∧
      Blanks after ∧ line = before ++ ("--> " ++ (a.text ++ after))) ∧ groups = a.groups := by
  -- That the file is taken lazily is not seen here: what stands behind it settles its end.
  rw [arrow, takesJust_blanks.seq_iff]
  simp only [takes_word_seq_iff, (takesJust_without true '\n').seq_group_iff,
    takesJust_digits.seq_group_iff, takesJust_blanks _ _]
  constructor
  · rintro ⟨before, _, hbefore, rfl, _, rfl, file, _, _, ⟨hfile, -⟩, rfl, rfl, _, rfl, number, _, _,
      hnumber, rfl, rfl, _, rfl, column, after, _, hcolumn, rfl, rfl, hafter, rfl⟩
    refine ⟨⟨file, number, column⟩, ⟨⟨hfile, hnumber, hcolumn⟩, before, after, hbefore, hafter, ?_⟩,
      rfl⟩
    simp [Arrow.text]
  · rintro ⟨⟨file, number, column⟩, ⟨⟨hfile, hnumber, hcolumn⟩, before, after, hbefore, hafter,
      rfl⟩, rfl⟩
    have hrow : '\n' ∉ file := by
      intro hmem
      exact Text.newline_notMem hline (by simp [Arrow.text, hmem])
    refine ⟨before, _, hbefore, rfl, _, rfl, file, ':' :: (number ++ ':' :: (column ++ after)), _,
      ⟨hfile, hrow⟩, ?_, rfl, _, rfl, number, _, _, hnumber, rfl, rfl, _, rfl, column, after, _,
      hcolumn, rfl, rfl, hafter, rfl⟩
    simp [Arrow.text]

/-- The pattern of help lines takes a line just if the line is written from a text, with blanks
before and perhaps an equals sign, and keeps this text. -/
theorem takes_help_iff (hline : IsLine line) :
    help.Takes line groups ↔ ∃ t : Text, (t ≠ [] ∧ ∃ before, Blanks before ∧
      (line = before ++ ("help: " ++ t) ∨ line = before ++ ("= help: " ++ t))) ∧
      groups = [(1, t)] := by
  rw [help, takesJust_blanks.seq_iff]
  simp only [takes_optional_word_seq_iff, takes_word_seq_iff,
    (takesJust_without false '\n').group_iff]
  constructor
  · rintro ⟨before, _, hbefore, rfl, _, hsign, t, rfl, ⟨hne, -⟩, rfl⟩
    refine ⟨t, ⟨hne, before, hbefore, ?_⟩, rfl⟩
    rcases hsign with rfl | rfl
    · exact .inl rfl
    · exact .inr rfl
  · rintro ⟨t, ⟨hne, before, hbefore, hwritten⟩, rfl⟩
    have hrow : '\n' ∉ t := by
      intro hmem
      apply Text.newline_notMem hline
      rcases hwritten with rfl | rfl <;> simp [hmem]
    rcases hwritten with rfl | rfl
    · exact ⟨before, _, hbefore, rfl, _, .inl rfl, t, rfl, ⟨hne, hrow⟩, rfl⟩
    · exact ⟨before, _, hbefore, rfl, _, .inr rfl, t, rfl, ⟨hne, hrow⟩, rfl⟩

end Pattern

/-- A gutter line begins with blanks, perhaps a number with blanks behind it, and a bar. -/
theorem isGutter_iff {line : Text} :
    isGutter line = true ↔ ∃ before number rest, Blanks before ∧
      ((∃ digits after, number = digits ++ after ∧ Digits digits ∧ Blanks after) ∨ number = []) ∧
      line = before ++ (number ++ '|' :: rest) := by
  rw [isGutter, decide_eq_true_eq]
  constructor
  · intro h
    obtain ⟨rest, hrest⟩ : ∃ rest,
        ((line.dropWhile isBlank).dropWhile isDigit).dropWhile isBlank = '|' :: rest :=
      List.head?_eq_some_iff.1 h
    have hline := List.takeWhile_append_dropWhile (p := isBlank) (l := line)
    have hnumber := List.takeWhile_append_dropWhile (p := isDigit) (l := line.dropWhile isBlank)
    have hafter := List.takeWhile_append_dropWhile (p := isBlank)
      (l := (line.dropWhile isBlank).dropWhile isDigit)
    rw [hrest] at hafter
    by_cases hdigits : (line.dropWhile isBlank).takeWhile isDigit = []
    · -- without a number, all blanks stand in front
      rw [hdigits, List.nil_append] at hnumber
      rw [hnumber, Text.dropWhile_dropWhile] at hrest
      rw [hrest] at hline
      exact ⟨line.takeWhile isBlank, [], rest, fun c => Text.of_mem_takeWhile, .inr rfl, hline.symm⟩
    · generalize hd : (line.dropWhile isBlank).takeWhile isDigit = digits at *
      generalize ha : ((line.dropWhile isBlank).dropWhile isDigit).takeWhile isBlank = after at *
      have hproper : Digits digits := ⟨hdigits, fun c hc => Text.of_mem_takeWhile (hd ▸ hc)⟩
      have hblanks : Blanks after := fun c hc => Text.of_mem_takeWhile (ha ▸ hc)
      refine ⟨line.takeWhile isBlank, digits ++ after, rest, fun c => Text.of_mem_takeWhile,
        .inl ⟨digits, after, rfl, hproper, hblanks⟩, ?_⟩
      rw [List.append_assoc, hafter, hnumber, hline]
  · rintro ⟨before, number, rest, hbefore, hnumber, rfl⟩
    have hbar : ∀ blanks : Text, Blanks blanks →
        (blanks ++ '|' :: rest).dropWhile isBlank = '|' :: rest :=
      fun blanks h => Text.dropWhile_blanks_append h rfl (by decide)
    rcases hnumber with ⟨digits, after, rfl, hdigits, hafter⟩ | rfl
    · obtain ⟨d, ds, rfl⟩ := List.exists_cons_of_ne_nil hdigits.1
      have hd := hdigits.2 d List.mem_cons_self
      have hend : (after ++ '|' :: rest).dropWhile isDigit = after ++ '|' :: rest := by
        apply Text.dropWhile_eq_self
        intro c hc
        cases after with
        | nil =>
          cases hc
          decide
        | cons a after =>
          obtain rfl : a = c := Option.some.inj hc
          rw [Bool.eq_false_iff]
          intro hdigit
          have hblank := hafter a List.mem_cons_self
          rw [Text.not_isBlank_of_isDigit hdigit] at hblank
          cases hblank
      rw [Text.dropWhile_blanks_append hbefore rfl (Text.not_isBlank_of_isDigit hd),
        List.append_assoc, List.dropWhile_append_of_pos hdigits.2, hend, hbar after hafter]
      rfl
    · rw [List.nil_append, hbar before hbefore]
      rfl

namespace Pattern

/-- The pattern of gutters begins a line just if the line is a gutter line. -/
theorem begins_gutter_iff {line : Text} : gutter.begins line = true ↔ isGutter line = true := by
  rw [begins_iff, isGutter_iff]
  simp only [gutter, takesJust_blanks.seq_iff]
  constructor
  · rintro ⟨_, rest, _, rfl, before, _, hbefore, rfl, number, _, _, _, rfl, rfl, hnumber, hbar⟩
    obtain ⟨rfl, rfl⟩ := (takesJust_word _ _ _).1 hbar
    refine ⟨before, number, rest, hbefore, ?_, by simp⟩
    rcases hnumber with ⟨_, rfl, hnumber⟩ | ⟨rfl, rfl⟩
    · obtain ⟨digits, after, hdigits, rfl, hafter⟩ := takesJust_digits.seq_iff.1 hnumber
      exact .inl ⟨digits, after, rfl, hdigits, ((takesJust_blanks _ _).1 hafter).1⟩
    · exact .inr rfl
  · rintro ⟨before, number, rest, hbefore, hnumber, rfl⟩
    obtain ⟨groups, hgroups⟩ :
        ∃ groups, (optional (group 1 (seq digits blanks))).Takes number groups := by
      rcases hnumber with ⟨digits, after, rfl, hdigits, hafter⟩ | rfl
      · have hafter' := (takesJust_blanks _ _).2 ⟨hafter, rfl⟩
        exact ⟨_, .inl ⟨_, rfl, takesJust_digits.seq_iff.2 ⟨digits, after, hdigits, rfl, hafter'⟩⟩⟩
      · exact ⟨[], .inr ⟨rfl, rfl⟩⟩
    exact ⟨before ++ (number ++ "|"), rest, _, by simp, before, _, hbefore, rfl, number, "|",
      groups, [], rfl, rfl, hgroups, (takesJust_word _ _ _).2 ⟨rfl, rfl⟩⟩

end Pattern

/-! ## One way only -/

namespace Pattern

variable {line : Text}

/-- The match of a line as a header tells what its recogniser answers. -/
theorem whole?_header (hline : IsLine line) :
    header.whole? line = (Header.read? line).map Header.groups :=
  whole?_eq_map (fun _ => takes_header_iff hline) fun _ => Header.read?_eq_some_iff

theorem whole?_arrow (hline : IsLine line) :
    arrow.whole? line = (Arrow.read? line).map Arrow.groups :=
  whole?_eq_map (fun _ => takes_arrow_iff hline) fun _ => Arrow.read?_eq_some_iff

theorem whole?_help (hline : IsLine line) :
    help.whole? line = (helpText? line).map fun t => [(1, t)] :=
  whole?_eq_map (fun _ => takes_help_iff hline) fun _ => helpText?_eq_some_iff

theorem matchesOneWay_header (hline : IsLine line) :
    header.MatchesOneWay line Header.groups fun h => h.IsProper ∧ line = h.text :=
  matchesOneWay_of_answer Header.ofGroups?_groups (fun _ => takes_header_iff hline)
    fun _ => Header.read?_eq_some_iff

theorem matchesOneWay_arrow (hline : IsLine line) :
    arrow.MatchesOneWay line Arrow.groups fun a => a.IsProper ∧ ∃ before after, Blanks before ∧
      Blanks after ∧ line = before ++ ("--> " ++ (a.text ++ after)) :=
  matchesOneWay_of_answer Arrow.ofGroups?_groups (fun _ => takes_arrow_iff hline)
    fun _ => Arrow.read?_eq_some_iff

theorem matchesOneWay_help (hline : IsLine line) :
    help.MatchesOneWay line (fun t => [(1, t)]) fun t => t ≠ [] ∧ ∃ before, Blanks before ∧
      (line = before ++ ("help: " ++ t) ∨ line = before ++ ("= help: " ++ t)) :=
  matchesOneWay_of_answer helpOfGroups?_group (fun _ => takes_help_iff hline)
    fun _ => helpText?_eq_some_iff

end Pattern

end ContractBuild
