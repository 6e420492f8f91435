import ContractBuild.Build.Manifest

/-!
# Manifests as texts around a name

A manifest names the crate in quotation marks and nowhere else, so its template is a list of texts
between which the name is put: the same ones for every crate.

Main statement: `Manifest.exists_parts`.
-/

set_option autoImplicit false

namespace ContractBuild

namespace Text

/-- A character in front of the first text is in front of all of them when they are joined. -/
theorem join_modifyHead (separator : Text) (c : Char) {ts : List Text} (h : ts ≠ []) :
    join separator (ts.modifyHead (c :: ·)) = c :: join separator ts := by
  cases ts with
  | nil => exact absurd rfl h
  | cons t rest =>
    cases rest with
    | nil => rw [List.modifyHead_cons, join_singleton, join_singleton]
    | cons u rest =>
      rw [List.modifyHead_cons, join_cons_cons, join_cons_cons]
      rfl

end Text

namespace Template

/-- The texts between the fields of a template, with braces written once, if all its fields are for
the name in quotation marks. -/
def quotedGaps? : Text → Option (List Text)
  | [] => some [[]]
  | '"' :: '\x7b' :: 'n' :: 'a' :: 'm' :: 'e' :: '\x7d' :: '"' :: rest =>
    (quotedGaps? rest).map ([] :: ·)
  | '\x7b' :: '\x7b' :: rest => (quotedGaps? rest).map (List.modifyHead ('\x7b' :: ·))
  | '\x7d' :: '\x7d' :: rest => (quotedGaps? rest).map (List.modifyHead ('\x7d' :: ·))
  | c :: rest =>
    if c = '\x7b' ∨ c = '\x7d' then none else (quotedGaps? rest).map (List.modifyHead (c :: ·))

theorem ne_nil_of_quotedGaps {t : Text} {gaps : List Text} (h : quotedGaps? t = some gaps) :
    gaps ≠ [] := by
  have hmodify : ∀ {c : Char} {ts : List Text}, ts ≠ [] → ts.modifyHead (c :: ·) ≠ [] :=
    fun hts hnil => hts (List.modifyHead_eq_nil_iff.1 hnil)
  fun_induction quotedGaps? t generalizing gaps with
  | case1 =>
    cases h
    exact List.cons_ne_nil _ _
  | case2 rest ih =>
    obtain ⟨ts, -, rfl⟩ := Option.map_eq_some_iff.1 h
    exact List.cons_ne_nil _ _
  | case3 rest ih | case4 rest ih | case6 c rest _ _ _ _ ih =>
    obtain ⟨ts, hts, rfl⟩ := Option.map_eq_some_iff.1 h
    exact hmodify (ih hts)
  | case5 => cases h

/-- A field for the name is the name. -/
theorem expandWith_name (name : Text) (depth fuel : Nat) (rest : Text) :
    expandWith name (depth + 1) (fuel + 1) ('\x7b' :: 'n' :: 'a' :: 'm' :: 'e' :: '\x7d' :: rest) =
      (expandWith name (depth + 1) fuel rest).map (name ++ ·) := by
  have hfield : takeField ('n' :: 'a' :: 'm' :: 'e' :: '\x7d' :: rest) =
      .ok ({ key := "name" }, rest) := rfl
  have hvalue : value name ['n', 'a', 'm', 'e'] = .ok name := rfl
  have hlayout : expandWith name depth fuel [] = .ok [] := by cases fuel <;> rfl
  have hlaid : layOut name [] = .ok name := by
    have hpad : pad ' ' '<' 0 name = name := by simp [pad]
    exact congrArg Except.ok hpad
  simp [expandWith, hfield, hvalue, hlayout, hlaid, convert, bind, Except.bind, pure, Except.pure]
  rfl

/-- Such a template is expanded by putting the name, in quotation marks, between the texts. -/
theorem expandWith_of_quotedGaps (name : Text) (depth : Nat) {t : Text} {gaps : List Text}
    (h : quotedGaps? t = some gaps) {fuel : Nat} (hfuel : t.length ≤ fuel) :
    expandWith name (depth + 1) fuel t = .ok (Text.join ('"' :: name ++ ['"']) gaps) := by
  -- one case for each form of the text, with the fuel spent beside it
  fun_induction quotedGaps? t generalizing gaps fuel with
  | case1 =>
    cases h
    cases fuel <;> rfl
  | case2 rest ih =>
    obtain ⟨ts, hts, rfl⟩ := Option.map_eq_some_iff.1 h
    obtain ⟨fuel, rfl⟩ := Nat.exists_eq_add_of_le' (Nat.le_trans (by simp) hfuel : 3 ≤ fuel)
    have hrest := @ih _ hts fuel (by simp at hfuel; omega)
    rw [expandWith_cons (by decide), expandWith_name, expandWith_cons (by decide), hrest]
    cases ts with
    | nil => exact absurd rfl (ne_nil_of_quotedGaps hts)
    | cons first more =>
      rw [Text.join_cons_cons]
      simp [Except.map]
  | case3 rest ih | case4 rest ih =>
    obtain ⟨ts, hts, rfl⟩ := Option.map_eq_some_iff.1 h
    obtain ⟨fuel, rfl⟩ := Nat.exists_eq_add_of_le' (Nat.le_trans (by simp) hfuel : 1 ≤ fuel)
    have hrest := @ih _ hts fuel (by simp at hfuel; omega)
    rw [Text.join_modifyHead _ _ (ne_nil_of_quotedGaps hts)]
    rw [expandWith_brace (by decide), hrest]
    rfl
  | case5 c rest hname hopen hclose hbrace => cases h
  | case6 c rest hname hopen hclose hbrace ih =>
    obtain ⟨ts, hts, rfl⟩ := Option.map_eq_some_iff.1 h
    obtain ⟨fuel, rfl⟩ := Nat.exists_eq_add_of_le' (Nat.le_trans (by simp) hfuel : 1 ≤ fuel)
    rw [expandWith_cons hbrace, ih hts (by simpa using hfuel),
      Text.join_modifyHead _ _ (ne_nil_of_quotedGaps hts)]
    rfl

end Template

namespace Manifest

/-- A manifest that is written is made of the same texts for every crate, with the name of the crate
in quotation marks between them. -/
theorem exists_parts {template : Text} (h : template = contract ∨ template = validator) :
    ∃ parts, 1 < parts.length ∧ ∀ crate, Template.expand template crate =
      .ok (Text.join ('"' :: crate ++ ['"']) parts) := by
  have hparts : (Template.quotedGaps? template).any (1 < ·.length) = true := by
    rcases h with rfl | rfl <;> decide +kernel
  obtain ⟨parts, hgaps, hlength⟩ := (Option.any_eq_true _ _).1 hparts
  exact ⟨parts, of_decide_eq_true hlength, fun crate =>
    Template.expandWith_of_quotedGaps crate 1 hgaps (Nat.le_refl _)⟩

/-- A manifest that is written has an expansion for every crate. -/
theorem expands {template : Text} (h : template = contract ∨ template = validator)
    (crate : Text) : ∃ manifest, Template.expand template crate = .ok manifest := by
  obtain ⟨parts, -, hparts⟩ := exists_parts h
  exact ⟨_, hparts crate⟩

end Manifest

end ContractBuild
