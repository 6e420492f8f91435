import ContractBuild.Text.Digit

/-!
# Numerals

Whole numbers as text. A numeral is written with the ten ASCII digits and read in the digits
of any script; a run of more than `digitLimit` digits is refused before it is read, leading
zeros included.
-/

set_option autoImplicit false

namespace ContractBuild.Text

/-- The decimal numeral of a natural number. -/
def ofNat (n : Nat) : Text :=
  Nat.toDigits 10 n

/-- The decimal numeral of an integer, with a minus sign in front if it is negative. -/
def ofInt : Int → Text
  | .ofNat n => ofNat n
  | .negSucc n => '-' :: ofNat (n + 1)

/-- The numeral of `n` with zeros in front, if it has fewer than `width` digits. -/
def padded (width n : Nat) : Text :=
  List.replicate (width - (ofNat n).length) '0' ++ ofNat n

/-- The digits of base sixteen, in small letters. -/
def hexDigit (n : Nat) : Char :=
  Nat.digitChar n

/-- The last `width` digits of `n` in base sixteen. -/
def hexPadded : Nat → Nat → Text
  | 0, _ => []
  | width + 1, n => hexPadded width (n / 16) ++ [hexDigit (n % 16)]

/-! ## Reading -/

/-- The most digits that a numeral to be read may have. -/
def digitLimit : Nat := 4300

/-- A run of digits that is too long to be read, with its length. -/
structure TooManyDigits where
  count : Nat
  deriving DecidableEq, Repr

/-- The number written by a run of digits. -/
def number (digits : Text) : Except TooManyDigits Nat :=
  if digits.length ≤ digitLimit then .ok (digitsValue digits) else .error ⟨digits.length⟩

theorem number_eq_error_iff {digits : Text} {e : TooManyDigits} :
    number digits = .error e ↔ digitLimit < digits.length ∧ e = ⟨digits.length⟩ := by
  unfold number
  split
  · simp; omega
  · simp only [Except.error.injEq]
    exact ⟨fun h => ⟨by omega, h.symm⟩, fun h => h.2.symm⟩

/-! ## Writing and reading -/

theorem isDigit_of_mem_ofNat {n : Nat} {c : Char} (h : c ∈ ofNat n) : isDigit c = true :=
  isDigit_of_isDigit (Nat.isDigit_of_mem_toDigits (by omega) (by omega) h)

theorem ofNat_ne_nil (n : Nat) : ofNat n ≠ [] :=
  List.ne_nil_of_length_pos Nat.length_toDigits_pos

/-- A numeral is read as the number it is written for. -/
theorem digitsValue_ofNat (n : Nat) : digitsValue (ofNat n) = n := by
  have hfold : ∀ (t : Text), (∀ c ∈ t, c.isDigit = true) → ∀ init,
      t.foldl (fun n c => 10 * n + digitValue c) init = Nat.ofDigitChars 10 t init := by
    intro t
    induction t with
    | nil => intro _ init; rfl
    | cons c rest ih =>
      intro h init
      rw [List.foldl_cons, Nat.ofDigitChars_cons, digitValue_of_isDigit (h c List.mem_cons_self)]
      exact ih (fun d hd => h d (List.mem_cons_of_mem _ hd)) _
  have hdigits : ∀ c ∈ ofNat n, c.isDigit = true := fun c hc =>
    Nat.isDigit_of_mem_toDigits (by omega) (by omega) hc
  rw [digitsValue, hfold _ hdigits]
  exact Nat.ofDigitChars_toDigits (by omega) (by omega)

/-- The numeral of the number that a run of digits writes is not longer than the run. -/
theorem length_ofNat_digitsValue_le {t : Text} (h : t ≠ []) :
    (ofNat (digitsValue t)).length ≤ t.length :=
  (Nat.length_toDigits_le_iff (by omega) (List.length_pos_iff.2 h)).2 (digitsValue_lt t)

end ContractBuild.Text
