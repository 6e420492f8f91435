import ContractBuild.Proofs.Build.Naming
import Mathlib.Data.List.DropRight

/-!
# The form of a crate name

A crate name starts with a letter, goes on with letters, digits and underscores, and has at most 64
characters. Stripping, lower case and the squeeze leave such a text alone, so all that
can still be taken from it are underscores at its end, which the cut to the length may have laid
open.

Main statements: every project has a name of this form (`CrateName.wellFormed_ofProject`), and the
name for a text that has this form already is the text without the underscores at its end
(`CrateName.ofProject_of_wellFormed`).
-/

set_option autoImplicit false

namespace ContractBuild

/-! ## Texts that are left alone -/

namespace Text

variable {p : Char → Bool} {t : Text}

theorem dropTrailing_eq_rdropWhile (p : Char → Bool) (t : Text) :
    dropTrailing p t = t.rdropWhile p :=
  rfl

/-- Nothing is dropped at the end of a text whose last character is none of the class. -/
theorem dropTrailing_eq_self (h : ∀ c, t.getLast? = some c → p c = false) :
    dropTrailing p t = t := by
  rw [dropTrailing_eq_rdropWhile, List.rdropWhile_eq_self_iff]
  intro hne hlast
  rw [h _ (List.getLast?_eq_some_getLast hne)] at hlast
  cases hlast

/-- A first character that is none of the class is not dropped. -/
theorem dropTrailing_cons {c : Char} (h : p c = false) (t : Text) :
    dropTrailing p (c :: t) = c :: dropTrailing p t := by
  unfold dropTrailing
  rw [List.reverse_cons, List.dropWhile_append]
  split
  · rename_i hempty
    rw [List.isEmpty_iff.1 hempty, List.dropWhile_cons_of_neg (by rw [h]; exact Bool.false_ne_true)]
    rfl
  · rw [List.reverse_append]
    rfl

/-- What is dropped at the end are characters of the class. -/
theorem exists_append_dropTrailing (p : Char → Bool) (t : Text) :
    ∃ dropped : Text, t = dropTrailing p t ++ dropped ∧ ∀ c ∈ dropped, p c = true :=
  ⟨t.rtakeWhile p, List.rdropWhile_append_rtakeWhile.symm, fun _ hc => List.mem_rtakeWhile_imp hc⟩

/-- Nothing is trimmed from a text that has no character of the class. -/
theorem trim_eq_self (h : ∀ c ∈ t, p c = false) : trim p t = t := by
  have hstart : t.dropWhile p = t := dropWhile_eq_self fun c hc => h c (List.mem_of_head? hc)
  rw [trim, hstart]
  exact dropTrailing_eq_self fun c hc => h c (List.mem_of_getLast? hc)

/-- A text of ASCII characters without capital letters is in small letters already. -/
theorem lower_eq_self (h : ∀ c ∈ t, c.toNat < 0x80 ∧ c.isUpper = false) : lower t = t := by
  have hfrom : ∀ before done, lowerFrom before done t = t.reverse ++ done := by
    induction t with
    | nil => exact fun _ _ => rfl
    | cons c rest ih =>
      intro before done
      obtain ⟨hascii, hsmall⟩ := h c List.mem_cons_self
      have hsigma : c ≠ '\u03a3' := by
        rintro rfl
        revert hascii
        decide
      have hc : c.toLower = c := dif_neg (of_decide_eq_false hsmall)
      rw [lowerFrom, lowerAt, if_neg hsigma, if_pos hascii, hc,
        ih fun d hd => h d (List.mem_cons_of_mem c hd)]
      simp
  rw [lower, hfrom, List.append_nil, List.reverse_reverse]

end Text

/-! ## The form -/

namespace CrateName

/-- The form of a crate name. -/
structure WellFormed (name : Text) : Prop where
  first : ∃ c rest, name = c :: rest ∧ c.isLower = true
  allowed : ∀ c ∈ name, c.isLower = true ∨ c.isDigit = true ∨ c = '_'
  length_le : name.length ≤ 64

theorem isAllowed_iff {c : Char} :
    isAllowed c = true ↔ c.isLower = true ∨ c.isDigit = true ∨ c = '_' := by
  rw [isAllowed, Bool.or_eq_true, Bool.or_eq_true, decide_eq_true_eq, or_assoc]

theorem WellFormed.isAllowed {name : Text} (h : WellFormed name) :
    ∀ c ∈ name, isAllowed c = true :=
  fun c hc => isAllowed_iff.2 (h.allowed c hc)

/-- Every project has a name of the form. -/
theorem wellFormed_ofProject (project : Text) : WellFormed (ofProject project) := by
  refine ⟨?_, fun c hc => isAllowed_iff.1 (isAllowed_of_mem_ofProject hc), ?_⟩
  · unfold ofProject
    split
    · exact ⟨'c', _, rfl, rfl⟩
    · rename_i c rest _
      split
      · rename_i hletter
        exact ⟨c, rest.take 63, rfl, hletter⟩
      · exact ⟨'c', _, rfl, rfl⟩
  · unfold ofProject
    split
    · decide
    · exact List.length_take_le _ _

/-- The characters of a crate name are small ASCII characters, and none of them is a blank. -/
theorem small_of_isAllowed {c : Char} (h : isAllowed c = true) :
    c.toNat < 0x80 ∧ c.isUpper = false ∧ Text.isBlank c = false := by
  have hrange : 97 ≤ c.toNat ∧ c.toNat ≤ 122 ∨ 48 ≤ c.toNat ∧ c.toNat ≤ 57 ∨ c.toNat = 95 := by
    rcases isAllowed_iff.1 h with hlower | hdigit | rfl
    · obtain ⟨hfirst, hlast⟩ := Bool.and_eq_true_iff.1 hlower
      exact .inl ⟨of_decide_eq_true hfirst, of_decide_eq_true hlast⟩
    · obtain ⟨hfirst, hlast⟩ := Bool.and_eq_true_iff.1 hdigit
      exact .inr (.inl ⟨of_decide_eq_true hfirst, of_decide_eq_true hlast⟩)
    · exact .inr (.inr rfl)
  refine ⟨by omega, decide_eq_false fun hupper => ?_, Bool.eq_false_iff.2 fun hblank => ?_⟩
  · have hbounds : 65 ≤ c.toNat ∧ c.toNat ≤ 90 := hupper
    omega
  · -- the blanks are all before the digits or behind the small letters
    have houtside : ∀ r ∈ Text.blankRanges, r.last < 48 ∨ 122 < r.first := by decide
    obtain ⟨r, hr, hfirst, hlast⟩ := Text.inClass_iff.1 hblank
    have hout := houtside r hr
    omega

theorem squeeze_eq_self {t : Text} (h : ∀ c ∈ t, isAllowed c = true) : squeeze t = t := by
  have hfold : t.foldr squeezeStep (false, []) = (false, t) := by
    induction t with
    | nil => rfl
    | cons c rest ih =>
      rw [List.foldr_cons, ih fun d hd => h d (List.mem_cons_of_mem c hd), squeezeStep,
        if_pos (h c List.mem_cons_self)]
  rw [squeeze, hfold]

theorem usable_of_wellFormed {name : Text} (h : WellFormed name) :
    usable name = Text.dropTrailing (· = '_') name := by
  have hstrip : Text.strip name = name :=
    Text.trim_eq_self fun c hc => (small_of_isAllowed (h.isAllowed c hc)).2.2
  have hlower : Text.lower name = name := Text.lower_eq_self fun c hc =>
    ⟨(small_of_isAllowed (h.isAllowed c hc)).1, (small_of_isAllowed (h.isAllowed c hc)).2.1⟩
  obtain ⟨c, rest, rfl, hletter⟩ := h.first
  have hstart : (c :: rest).dropWhile (fun d => decide (d = '_')) = c :: rest := by
    refine Text.dropWhile_eq_self fun d hd => ?_
    cases hd
    refine decide_eq_false ?_
    rintro rfl
    cases hletter
  rw [usable, hstrip, hlower, squeeze_eq_self h.isAllowed, Text.trim, hstart]

/-- The name for a text that has the form already is the text without the underscores at its end. -/
theorem ofProject_of_wellFormed {name : Text} (h : WellFormed name) :
    ofProject name = Text.dropTrailing (· = '_') name := by
  obtain ⟨c, rest, rfl, hletter⟩ := h.first
  have hunderscore : decide (c = '_') = false := by
    refine decide_eq_false ?_
    rintro rfl
    cases hletter
  have husable := usable_of_wellFormed h
  have hshort := (Text.dropTrailing_isPrefixOf (· = '_') (c :: rest)).length_le.trans h.length_le
  rw [Text.dropTrailing_cons hunderscore] at husable hshort ⊢
  rw [ofProject, husable]
  simp only [hletter, if_true]
  exact List.take_of_length_le hshort

end CrateName

end ContractBuild
