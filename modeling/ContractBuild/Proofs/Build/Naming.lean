import ContractBuild.Build.Workspace

/-!
# Names of build directories

The name of a build directory is made of the name of the crate, a reading of the clock and the first
characters of a token, with hyphens between. A crate name has no hyphen, whatever the project is
called, and neither has a token, so the three parts can be told apart again.

Main statements: two directories have the same name only if crate, reading and token are the same
(`Workspace.directoryName_inj`), and the name of a directory is a single one of letters, digits,
underscores and hyphens (`Workspace.isPlain_directoryName`).
-/

set_option autoImplicit false

namespace ContractBuild

/-! ## Numerals -/

namespace Text

theorem ofNat_inj {m n : Nat} (h : ofNat m = ofNat n) : m = n := by
  rw [← digitsValue_ofNat m, h, digitsValue_ofNat]

theorem hyphen_notMem_ofNat (n : Nat) : '-' ∉ ofNat n := by
  intro hmem
  have hdigit := isDigit_of_mem_ofNat hmem
  cases hdigit

/-- Different integers are written differently. -/
theorem ofInt_inj {m n : Int} (h : ofInt m = ofInt n) : m = n := by
  cases m with
  | ofNat m =>
    cases n with
    | ofNat n => exact congrArg Int.ofNat (ofNat_inj h)
    | negSucc n =>
      have hmem : '-' ∈ ofInt (.negSucc n) := List.mem_cons_self
      rw [← h] at hmem
      exact absurd hmem (hyphen_notMem_ofNat m)
  | negSucc m =>
    cases n with
    | ofNat n =>
      have hmem : '-' ∈ ofInt (.negSucc m) := List.mem_cons_self
      rw [h] at hmem
      exact absurd hmem (hyphen_notMem_ofNat n)
    | negSucc n =>
      have hsucc := ofNat_inj (List.cons.inj h).2
      exact congrArg Int.negSucc (Nat.succ.inj hsucc)

end Text

/-! ## Crate names -/

namespace CrateName

theorem isAllowed_of_mem_squeeze {t : Text} {c : Char} (h : c ∈ squeeze t) :
    isAllowed c = true := by
  unfold squeeze at h
  induction t with
  | nil => cases h
  | cons d rest ih =>
    rw [List.foldr_cons, squeezeStep] at h
    -- A character stays, or is passed over, or leaves an underscore, which is allowed.
    split at h
    · rename_i hallowed
      rcases List.mem_cons.1 h with rfl | hrest
      · exact hallowed
      · exact ih hrest
    · split at h
      · exact ih h
      · rcases List.mem_cons.1 h with rfl | hrest
        · decide
        · exact ih hrest

/-- A crate name has no other characters than small letters, digits and underscores. -/
theorem isAllowed_of_mem_ofProject {project : Text} {c : Char} (h : c ∈ ofProject project) :
    isAllowed c = true := by
  have husable : ∀ d ∈ usable project, isAllowed d = true := fun d hd =>
    isAllowed_of_mem_squeeze (Text.trim_subset _ _ hd)
  have hfallback : ∀ d ∈ fallback, isAllowed d = true := by decide
  unfold ofProject at h
  split at h
  · exact hfallback c h
  · rename_i first rest hparts
    rw [hparts] at husable
    have hmem := List.mem_of_mem_take h
    -- A name that does not begin with a letter gets the fallback in front.
    split at hmem
    · exact husable c hmem
    · rcases List.mem_append.1 hmem with hin | hin
      · exact hfallback c hin
      · rcases List.mem_cons.1 hin with rfl | hin
        · decide
        · exact husable c hin

end CrateName

/-! ## Names of directories -/

/-- The characters of a token. -/
def hexDigits : Text := "0123456789abcdef"

namespace Workspace

/-- A single name of letters, digits, underscores and hyphens. -/
def IsPlain (name : Text) : Prop :=
  name ≠ [] ∧ ∀ c ∈ name, CrateName.isAllowed c = true ∨ c = '-'

theorem IsPlain.ne_up {name : Text} (h : IsPlain name) : name ≠ Position.up := by
  rintro rfl
  have hpoint := h.2 '.' List.mem_cons_self
  revert hpoint
  decide

theorem hyphen_notMem_ofProject (project : Text) : '-' ∉ CrateName.ofProject project := by
  intro hmem
  have hallowed := CrateName.isAllowed_of_mem_ofProject hmem
  cases hallowed

/-- The token gives hexadecimal digits for the name. -/
def IsHex (token : Text) : Prop :=
  ∀ c ∈ token, c ∈ hexDigits

instance (token : Text) : Decidable (IsHex token) :=
  inferInstanceAs (Decidable (∀ c ∈ token, c ∈ hexDigits))

theorem IsHex.hyphen_notMem_take {token : Text} (h : IsHex token) : '-' ∉ token.take 8 := by
  intro hmem
  have hdigit := h _ (List.mem_of_mem_take hmem)
  revert hdigit
  decide

/-- The three parts can be told apart in the name of a directory. -/
theorem directoryName_inj {project project' : Text} {tick tick' : Int} {token token' : Text}
    (htoken : IsHex token) (htoken' : IsHex token')
    (h : directoryName (CrateName.ofProject project) tick token =
      directoryName (CrateName.ofProject project') tick' token') :
    CrateName.ofProject project = CrateName.ofProject project' ∧ tick = tick' ∧
      token.take 8 = token'.take 8 := by
  -- A reading may have a hyphen in front, so the token is cut off from behind and the crate name
  -- from the front.
  obtain ⟨hfront, htail⟩ :=
    Text.cut_last_inj h htoken.hyphen_notMem_take htoken'.hyphen_notMem_take
  obtain ⟨hcrate, htick⟩ := Text.cut_first_inj hfront (hyphen_notMem_ofProject project)
    (hyphen_notMem_ofProject project')
  exact ⟨hcrate, Text.ofInt_inj htick, htail⟩

/-- Whatever the project is called, the directory has a plain name. -/
theorem isPlain_directoryName (project : Text) (tick : Int) {token : Text} (h : IsHex token) :
    IsPlain (directoryName (CrateName.ofProject project) tick token) := by
  have hdigit : ∀ c : Char, c.isDigit = true → CrateName.isAllowed c = true := by
    intro c hc
    rw [CrateName.isAllowed, hc, Bool.or_true, Bool.true_or]
  have hnumber : ∀ (n : Nat), ∀ c ∈ Text.ofNat n, CrateName.isAllowed c = true := fun n c hc =>
    hdigit c (Nat.isDigit_of_mem_toDigits (by omega) (by omega) hc)
  have hhex : ∀ c ∈ hexDigits, CrateName.isAllowed c = true := by decide
  refine ⟨List.append_ne_nil_of_right_ne_nil _ (List.cons_ne_nil _ _), fun c hc => ?_⟩
  rw [directoryName, List.mem_append, List.mem_append, List.mem_cons, List.mem_cons] at hc
  rcases hc with (hcrate | hhyphen | htick) | hhyphen | htoken
  · exact .inl (CrateName.isAllowed_of_mem_ofProject hcrate)
  · exact .inr hhyphen
  · cases tick with
    | ofNat n => exact .inl (hnumber n c htick)
    | negSucc n =>
      rcases List.mem_cons.1 htick with hminus | hdigits
      · exact .inr hminus
      · exact .inl (hnumber (n + 1) c hdigits)
  · exact .inr hhyphen
  · exact .inl (hhex c (h c (List.mem_of_mem_take htoken)))

end Workspace

end ContractBuild
