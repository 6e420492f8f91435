import ContractBuild.Diagnostic.Line
import Mathlib.Data.List.TakeDrop

/-!
# The kinds of line

The exact shape of each kind of line, in both directions: a recogniser answers with some parts if
and only if the line is written from them (`Header.read?_eq_some_iff`, `Arrow.read?_eq_some_iff`,
`helpText?_eq_some_iff`).

The kinds other than headers are apart: the first character that is no blank tells them from each
other (`Text.lead?`), so the order in which they are tried makes no difference.
-/

set_option autoImplicit false

namespace ContractBuild

open Text (after? after?_append isBlank isDigit inClass_iff digitRanges blankRanges)

/-! ## Classes of characters -/

theorem Text.not_isBlank_of_isDigit {c : Char} (h : isDigit c = true) : isBlank c = false := by
  have hdisjoint : ∀ d ∈ digitRanges, ∀ b ∈ blankRanges, d.last < b.first ∨ b.last < d.first := by
    decide
  rw [Bool.eq_false_iff]
  intro hblank
  obtain ⟨d, hd, hcd⟩ := inClass_iff.1 h
  obtain ⟨b, hb, hcb⟩ := inClass_iff.1 hblank
  have := hdisjoint d hd b hb
  omega

/-- Nothing but blanks. -/
abbrev Text.Blanks (t : Text) : Prop :=
  ∀ c ∈ t, isBlank c = true

/-- A run of digits. -/
abbrev Text.Digits (t : Text) : Prop :=
  t ≠ [] ∧ ∀ c ∈ t, isDigit c = true

open Text (Blanks Digits)

theorem Text.of_mem_takeWhile {p : Char → Bool} {t : Text} {c : Char} (h : c ∈ t.takeWhile p) :
    p c = true :=
  List.all_eq_true.1 List.all_takeWhile c h

/-- Blanks in front of a text that begins with another character are those that are dropped. -/
theorem Text.dropWhile_blanks_append {before t : Text} {c : Char} (hbefore : Blanks before)
    (ht : t.head? = some c) (hc : isBlank c = false) : (before ++ t).dropWhile isBlank = t := by
  rw [List.dropWhile_append_of_pos hbefore]
  refine Text.dropWhile_eq_self fun d hd => ?_
  rw [ht] at hd
  rwa [← Option.some.inj hd]

/-- A run of digits ends at the first character that is none. -/
theorem Text.span_digits {digits rest : Text} {c : Char} (hdigits : ∀ d ∈ digits, isDigit d = true)
    (hc : isDigit c = false) : (digits ++ c :: rest).span isDigit = (digits, c :: rest) := by
  rw [List.span_eq_takeWhile_dropWhile, List.takeWhile_append_of_pos hdigits,
    List.dropWhile_append_of_pos hdigits]
  simp [hc]

/-- The first character of a line that is no blank. -/
def Text.lead? (line : Text) : Option Char :=
  (line.dropWhile isBlank).head?

open Text (lead?)

theorem Text.lead?_blanks_append {before t : Text} {c : Char} (hbefore : Blanks before)
    (ht : t.head? = some c) (hc : isBlank c = false) : lead? (before ++ t) = some c := by
  rw [lead?, dropWhile_blanks_append hbefore ht hc, ht]

/-! ## Headers -/

namespace Header

/-- The parts can stand in a header. -/
structure IsProper (h : Header) : Prop where
  message : h.message ≠ []
  code : ∀ code ∈ h.code, code ≠ [] ∧ ']' ∉ code

/-- The code of a header as it is written. -/
def writtenCode : Option Text → Text
  | some code => '[' :: code ++ [']']
  | none => []

/-- The line that a header writes. -/
def text (h : Header) : Text :=
  h.severity.name ++ (writtenCode h.code ++ (": " ++ h.message))

theorem message?_eq_some_iff {t message : Text} :
    message? t = some message ↔ message ≠ [] ∧ t = ": " ++ message := by
  unfold message?
  constructor
  · intro h
    split at h
    · rename_i c rest hafter
      cases h
      exact ⟨List.cons_ne_nil _ _, Text.eq_append_of_after? hafter⟩
    · cases h
  · rintro ⟨hne, rfl⟩
    rw [after?_append]
    cases message with
    | nil => exact absurd rfl hne
    | cons c rest => rfl

theorem bracketed?_eq_some_iff {t code rest : Text} :
    bracketed? t = some (code, rest) ↔
      (code ≠ [] ∧ ']' ∉ code) ∧ t = '[' :: code ++ ']' :: rest := by
  constructor
  · intro h
    cases t with
    | nil => cases h
    | cons b t =>
      by_cases hb : b = '['
      · subst hb
        rw [bracketed?] at h
        have hspan := List.span_eq_takeWhile_dropWhile (p := fun c => decide (c ≠ ']')) (l := t)
        rw [hspan] at h
        -- The code is what stands before the first closing bracket, and that bracket must be there.
        split at h
        · rename_i code' d rest' heq
          split at h
          · cases h
          · rename_i hne
            cases h
            obtain ⟨htake, hdrop⟩ := Prod.mk.inj heq
            have hd : d = ']' := by
              have := Text.head?_dropWhile _ t (c := d) (by rw [hdrop]; rfl)
              simpa using this
            have hnot : ']' ∉ code := by
              intro hmem
              rw [← htake] at hmem
              have := Text.of_mem_takeWhile hmem
              simp at this
            refine ⟨⟨by simpa using hne, hnot⟩, ?_⟩
            rw [← hd, ← htake, ← hdrop, List.cons_append, List.takeWhile_append_dropWhile]
        · cases h
      · unfold bracketed? at h
        split at h
        · rename_i heq
          cases heq
          exact absurd rfl hb
        · cases h
  · rintro ⟨⟨hne, hnot⟩, rfl⟩
    have hpos : ∀ c ∈ code, decide (c ≠ ']') = true := by
      intro c hc
      rw [decide_eq_true_eq]
      rintro rfl
      exact hnot hc
    rw [List.cons_append, bracketed?, List.span_eq_takeWhile_dropWhile,
      List.takeWhile_append_of_pos hpos, List.dropWhile_append_of_pos hpos]
    simp [hne]

theorem severity?_name_append (s : Severity) (rest : Text) :
    severity? (s.name ++ rest) = some (s, rest) :=
  severity?_eq_some_iff.2 rfl

/-- What is read of a line that is written like a header: the message must not be empty. -/
theorem read?_text {h : Header} (hproper : ∀ code ∈ h.code, code ≠ [] ∧ ']' ∉ code) :
    read? h.text = if h.message.isEmpty then none else some h := by
  obtain ⟨severity, code, message⟩ := h
  have hmessage : message? (": " ++ message) = if message.isEmpty then none else some message := by
    rw [message?, after?_append]
    cases message <;> rfl
  rw [read?, text, severity?_name_append]
  cases code with
  | none =>
    have hcode : bracketed? (": " ++ message) = none := rfl
    simp only [Option.bind_eq_bind, Option.bind_some, writtenCode, List.nil_append, hcode, hmessage]
    cases message <;> rfl
  | some code =>
    have hcode : bracketed? ('[' :: code ++ [']'] ++ (": " ++ message)) =
        some (code, ": " ++ message) :=
      bracketed?_eq_some_iff.2 ⟨hproper code rfl, by simp⟩
    simp only [Option.bind_eq_bind, Option.bind_some, writtenCode, hcode, hmessage]
    cases message <;> rfl

/-- A line is a header with these parts if and only if it is written from them. -/
theorem read?_eq_some_iff {line : Text} {h : Header} :
    read? line = some h ↔ h.IsProper ∧ line = h.text := by
  constructor
  · intro hread
    rw [read?, Option.bind_eq_bind, Option.bind_eq_some_iff] at hread
    obtain ⟨⟨s, rest⟩, hs, hread⟩ := hread
    obtain rfl := severity?_eq_some_iff.1 hs
    simp only at hread
    split at hread
    · rename_i code rest' hcode
      obtain ⟨message, hmessage, rfl⟩ := Option.map_eq_some_iff.1 hread
      obtain ⟨hproper, rfl⟩ := bracketed?_eq_some_iff.1 hcode
      obtain ⟨hne, rfl⟩ := message?_eq_some_iff.1 hmessage
      refine ⟨⟨hne, ?_⟩, by simp [text, writtenCode]⟩
      rintro c ⟨⟩
      exact hproper
    · obtain ⟨message, hmessage, rfl⟩ := Option.map_eq_some_iff.1 hread
      obtain ⟨hne, rfl⟩ := message?_eq_some_iff.1 hmessage
      refine ⟨⟨hne, ?_⟩, rfl⟩
      rintro c ⟨⟩
  · rintro ⟨hproper, rfl⟩
    rw [read?_text hproper.code, if_neg (by simpa using hproper.message)]

end Header

/-! ## Arrows -/

namespace Arrow

/-- The parts can stand in an arrow. -/
structure IsProper (a : Arrow) : Prop where
  file : a.file ≠ []
  line : Digits a.line
  column : Digits a.column

/-- The place that an arrow points to, as it is written. -/
def text (a : Arrow) : Text :=
  a.file ++ ':' :: a.line ++ ':' :: a.column

theorem numberBack?_eq_some_iff {t digits rest : Text} :
    numberBack? t = some (digits, rest) ↔ Digits digits ∧ t = digits ++ ':' :: rest := by
  constructor
  · intro h
    rw [numberBack?, List.span_eq_takeWhile_dropWhile] at h
    split at h
    · rename_i d digits' rest' heq
      cases h
      obtain ⟨htake, hdrop⟩ := Prod.mk.inj heq
      refine ⟨⟨List.cons_ne_nil _ _, fun c hc => ?_⟩, ?_⟩
      · rw [← htake] at hc
        exact Text.of_mem_takeWhile hc
      · rw [← htake, ← hdrop, List.takeWhile_append_dropWhile]
    · cases h
  · rintro ⟨⟨hne, hdigits⟩, rfl⟩
    have hspan : (digits ++ ':' :: rest).span isDigit = (digits, ':' :: rest) :=
      Text.span_digits hdigits (by decide)
    cases digits with
    | nil => exact absurd rfl hne
    | cons d digits =>
      rw [numberBack?, hspan]
      rfl

theorem digits_reverse {t : Text} (h : Digits t) : Digits t.reverse :=
  ⟨by simpa using h.1, fun c hc => h.2 c (List.mem_reverse.1 hc)⟩

/-- What is read of a line that is written like an arrow: the file must not be empty. -/
theorem read?_written {before after line column : Text} (file : Text) (hbefore : Blanks before)
    (hafter : Blanks after) (hline : Digits line) (hcolumn : Digits column) :
    read? (before ++ ("--> " ++ (text ⟨file, line, column⟩ ++ after))) =
      if file.isEmpty then none else some ⟨file, line, column⟩ := by
  have hdrop : (before ++ ("--> " ++ (text ⟨file, line, column⟩ ++ after))).dropWhile isBlank =
      "--> " ++ (text ⟨file, line, column⟩ ++ after) :=
    Text.dropWhile_blanks_append hbefore rfl (by decide)
  have hback : (text ⟨file, line, column⟩ ++ after).reverse.dropWhile isBlank =
      column.reverse ++ ':' :: (line.reverse ++ ':' :: file.reverse) := by
    have hreverse : (text ⟨file, line, column⟩ ++ after).reverse =
        after.reverse ++ (column.reverse ++ ':' :: (line.reverse ++ ':' :: file.reverse)) := by
      simp [text]
    -- From behind, the blanks end at the last digit of the column, which is none of them.
    obtain ⟨d, rest, hd⟩ := List.exists_cons_of_ne_nil (List.reverse_ne_nil_iff.2 hcolumn.1)
    have hdigit : d ∈ column := List.mem_reverse.1 (hd ▸ List.mem_cons_self)
    rw [hreverse, hd]
    exact Text.dropWhile_blanks_append (fun c hc => hafter c (List.mem_reverse.1 hc)) rfl
      (Text.not_isBlank_of_isDigit (hcolumn.2 d hdigit))
  rw [read?, hdrop, after?_append]
  simp only [Option.bind_eq_bind, Option.bind_some]
  rw [hback, numberBack?_eq_some_iff.2 ⟨digits_reverse hcolumn, rfl⟩]
  simp only [Option.bind_some]
  rw [numberBack?_eq_some_iff.2 ⟨digits_reverse hline, rfl⟩]
  simp

/-- A line is an arrow with these parts if and only if it is written from them, with blanks before
and after. -/
theorem read?_eq_some_iff {line : Text} {a : Arrow} :
    read? line = some a ↔
      a.IsProper ∧ ∃ before after, Blanks before ∧ Blanks after ∧
        line = before ++ ("--> " ++ (a.text ++ after)) := by
  constructor
  · intro h
    simp only [read?, Option.bind_eq_bind, Option.bind_eq_some_iff] at h
    obtain ⟨rest, hafter, ⟨column, back⟩, hcolumn, ⟨number, back'⟩, hnumber, h⟩ := h
    simp only at hcolumn hnumber h
    -- The numbers are read from behind, so the file may hold colons and digits itself.
    obtain ⟨hc, hrest⟩ := numberBack?_eq_some_iff.1 hcolumn
    obtain ⟨hn, rfl⟩ := numberBack?_eq_some_iff.1 hnumber
    split at h
    · cases h
    · rename_i hne
      cases h
      refine ⟨⟨by simpa using hne, digits_reverse hn, digits_reverse hc⟩, line.takeWhile isBlank,
        (rest.reverse.takeWhile isBlank).reverse, fun c => Text.of_mem_takeWhile,
        fun c hc => Text.of_mem_takeWhile (List.mem_reverse.1 hc), ?_⟩
      have hline := (List.takeWhile_append_dropWhile (p := isBlank) (l := line)).symm
      have hfront : rest = (rest.reverse.dropWhile isBlank).reverse ++
          (rest.reverse.takeWhile isBlank).reverse := by
        rw [← List.reverse_append, List.takeWhile_append_dropWhile, List.reverse_reverse]
      rw [Text.eq_append_of_after? hafter] at hline
      rw [hrest] at hfront
      refine hline.trans (congrArg _ (congrArg _ (hfront.trans (congrArg (· ++ _) ?_))))
      simp [text]
  · rintro ⟨⟨hfile, hline, hcolumn⟩, before, after, hbefore, hafter, rfl⟩
    rw [read?_written a.file hbefore hafter hline hcolumn, if_neg (by simpa using hfile)]

/-- A line with the parts of an arrow is that arrow. -/
theorem read?_of_parts (file line column : Text) (hfile : file ≠ []) (hline : line ≠ [])
    (hcolumn : column ≠ []) (hl : ∀ c ∈ line, isDigit c = true)
    (hc : ∀ c ∈ column, isDigit c = true) :
    read? (' ' :: "--> " ++ (file ++ ':' :: line ++ ':' :: column)) =
      some ⟨file, line, column⟩ := by
  refine read?_eq_some_iff.2 ⟨⟨hfile, ⟨hline, hl⟩, ⟨hcolumn, hc⟩⟩, [' '], [],
    ?_, List.forall_mem_nil _, ?_⟩
  · intro c hc
    obtain rfl := List.mem_singleton.1 hc
    decide
  · rw [List.append_nil]
    rfl

end Arrow

/-! ## Help lines and gutters -/

/-- A line is a help line with this text if and only if it is written from it, with blanks before
and perhaps an equals sign. -/
theorem helpText?_eq_some_iff {line t : Text} :
    helpText? line = some t ↔
      t ≠ [] ∧ ∃ before, Blanks before ∧
        (line = before ++ ("help: " ++ t) ∨ line = before ++ ("= help: " ++ t)) := by
  have hread : helpText? line = some t ↔ t ≠ [] ∧
      (after? "= " (line.dropWhile isBlank)).getD (line.dropWhile isBlank) = "help: " ++ t := by
    unfold helpText?
    simp only
    generalize (after? "= " (line.dropWhile isBlank)).getD (line.dropWhile isBlank) = u
    constructor
    · intro h
      split at h
      · rename_i c rest hafter
        cases h
        exact ⟨List.cons_ne_nil _ _, Text.eq_append_of_after? hafter⟩
      · cases h
    · rintro ⟨hne, rfl⟩
      rw [after?_append]
      cases t with
      | nil => exact absurd rfl hne
      | cons c rest => rfl
  rw [hread]
  constructor
  · rintro ⟨hne, h⟩
    refine ⟨hne, line.takeWhile isBlank, fun c => Text.of_mem_takeWhile, ?_⟩
    have hline := (List.takeWhile_append_dropWhile (p := isBlank) (l := line)).symm
    cases hsign : after? "= " (line.dropWhile isBlank) with
    | none =>
      rw [hsign, Option.getD_none] at h
      rw [h] at hline
      exact .inl hline
    | some u =>
      rw [hsign, Option.getD_some] at h
      rw [Text.eq_append_of_after? hsign, h] at hline
      exact .inr hline
  · rintro ⟨hne, before, hbefore, rfl | rfl⟩
    · have hdrop : (before ++ ("help: " ++ t)).dropWhile isBlank = "help: " ++ t :=
        Text.dropWhile_blanks_append hbefore rfl (by decide)
      exact ⟨hne, by rw [hdrop]; rfl⟩
    · have hdrop : (before ++ ("= help: " ++ t)).dropWhile isBlank = "= help: " ++ t :=
        Text.dropWhile_blanks_append hbefore rfl (by decide)
      exact ⟨hne, by rw [hdrop]; rfl⟩

/-! ## The kinds are apart -/

/-- A header begins with the first letter of its severity. -/
theorem Header.head?_of_read? {line : Text} {h : Header} (hread : Header.read? line = some h) :
    line.head? = h.severity.name.head? := by
  obtain ⟨-, rfl⟩ := Header.read?_eq_some_iff.1 hread
  obtain ⟨severity, code, message⟩ := h
  cases severity <;> rfl

theorem Arrow.lead?_of_read? {line : Text} {a : Arrow} (hread : Arrow.read? line = some a) :
    lead? line = some '-' := by
  obtain ⟨-, before, after, hbefore, -, rfl⟩ := Arrow.read?_eq_some_iff.1 hread
  exact Text.lead?_blanks_append hbefore rfl (by decide)

theorem lead?_of_helpText? {line t : Text} (hread : helpText? line = some t) :
    lead? line = some 'h' ∨ lead? line = some '=' := by
  obtain ⟨-, before, hbefore, rfl | rfl⟩ := helpText?_eq_some_iff.1 hread
  · exact .inl (Text.lead?_blanks_append hbefore rfl (by decide))
  · exact .inr (Text.lead?_blanks_append hbefore rfl (by decide))

theorem lead?_of_isGutter {line : Text} (h : isGutter line = true) :
    ∃ c, lead? line = some c ∧ (c = '|' ∨ isDigit c = true) := by
  unfold isGutter at h
  unfold Text.lead?
  have hhead := fun c => Text.head?_dropWhile isBlank line (c := c)
  cases hdrop : line.dropWhile isBlank with
  | nil =>
    rw [hdrop] at h
    cases h
  | cons c rest =>
    refine ⟨c, rfl, ?_⟩
    rw [hdrop] at h hhead
    cases hc : isDigit c with
    | true => exact .inr rfl
    | false =>
      rw [List.dropWhile_cons_of_neg (by simp [hc]),
        List.dropWhile_cons_of_neg (by simp [hhead c rfl])] at h
      exact .inl (by simpa using h)

theorem Header.lead?_of_read? {line : Text} {h : Header} (hread : Header.read? line = some h) :
    lead? line = h.severity.name.head? := by
  have hhead := head?_of_read? hread
  rw [← hhead, lead?, Text.dropWhile_eq_self]
  intro c hc
  rw [hhead] at hc
  cases hs : h.severity <;> rw [hs] at hc <;> cases hc <;> decide

theorem not_isGutter_of_lead? {line : Text} {c : Char} (hlead : lead? line = some c)
    (hbar : c ≠ '|') (hdigit : isDigit c = false) : isGutter line = false := by
  rw [Bool.eq_false_iff]
  intro hgutter
  obtain ⟨d, hd, rfl | hkind⟩ := lead?_of_isGutter hgutter
  · rw [hlead] at hd
    exact hbar (Option.some.inj hd)
  · rw [hlead] at hd
    rw [← Option.some.inj hd, hdigit] at hkind
    cases hkind

/-- A help line is neither an arrow nor a gutter line. -/
theorem apart_of_helpText? {line t : Text} (hread : helpText? line = some t) :
    Arrow.read? line = none ∧ isGutter line = false := by
  constructor
  · refine Option.eq_none_iff_forall_ne_some.2 fun a ha => ?_
    have harrow := Arrow.lead?_of_read? ha
    rcases lead?_of_helpText? hread with h | h <;> rw [h] at harrow <;> cases harrow
  · rcases lead?_of_helpText? hread with h | h <;>
      exact not_isGutter_of_lead? h (by decide) (by decide)

/-- An arrow is no line of another kind. -/
theorem Arrow.apart {line : Text} {a : Arrow} (hread : Arrow.read? line = some a) :
    Header.read? line = none ∧ helpText? line = none ∧ isGutter line = false := by
  have hlead := lead?_of_read? hread
  refine ⟨?_, ?_, not_isGutter_of_lead? hlead (by decide) (by decide)⟩
  · refine Option.eq_none_iff_forall_ne_some.2 fun h hh => ?_
    have hheader := Header.lead?_of_read? hh
    rw [hlead] at hheader
    cases hs : h.severity <;> rw [hs] at hheader <;> cases hheader
  · refine Option.eq_none_iff_forall_ne_some.2 fun t ht => ?_
    rw [(apart_of_helpText? ht).1] at hread
    cases hread

/-- A line that is written like a header is neither an arrow nor a gutter line, and without a
message it is no help line either. -/
theorem Header.apart_of_text (h : Header) :
    Arrow.read? h.text = none ∧ isGutter h.text = false ∧
      (h.message = [] → helpText? h.text = none) := by
  obtain ⟨severity, code, message⟩ := h
  refine ⟨by cases severity <;> rfl, by cases severity <;> rfl, ?_⟩
  rintro ⟨⟩
  cases severity <;> cases code <;> rfl

/-- A gutter line is no line of another kind. -/
theorem apart_of_isGutter {line : Text} (hgutter : isGutter line = true) :
    Header.read? line = none ∧ Arrow.read? line = none ∧ helpText? line = none := by
  refine ⟨?_, ?_, ?_⟩
  · refine Option.eq_none_iff_forall_ne_some.2 fun h hh => ?_
    have hnot : isGutter line = false := by
      have hheader := Header.lead?_of_read? hh
      cases hs : h.severity <;> rw [hs] at hheader <;>
        exact not_isGutter_of_lead? hheader (by decide) (by decide)
    rw [hgutter] at hnot
    cases hnot
  · refine Option.eq_none_iff_forall_ne_some.2 fun a ha => ?_
    rw [(Arrow.apart ha).2.2] at hgutter
    cases hgutter
  · refine Option.eq_none_iff_forall_ne_some.2 fun t ht => ?_
    rw [(apart_of_helpText? ht).2] at hgutter
    cases hgutter

end ContractBuild
