import ContractBuild.Number.Integer

/-!
# Rounding

Rounding at most doubles a magnitude, so an integer or a quotient that is far from the end of the
format has a number of the format.

Main statements: `Binary64.ofInt_ok`, `Binary64.quotient_ok`.
-/

set_option autoImplicit false

namespace ContractBuild.Binary64

theorem roundDiv_le (num den : Nat) : roundDiv num den ≤ num / den + 1 := by
  unfold roundDiv
  simp only
  split
  · exact Nat.le_succ _
  · split
    · have := Nat.mod_two_eq_zero_or_one (num / den)
      omega
    · exact Nat.le_refl _

/-- Rounding at most doubles a magnitude, one unit apart. -/
theorem roundUnits_le (num den : Nat) : roundUnits num den ≤ 2 * (num / den) + 1 := by
  have hpow : Nat.pow 2 (droppedBits (num / den)) ≤ num / den + 1 := by
    unfold droppedBits precision
    by_cases hq : num / den = 0
    · rw [hq]
      decide
    · have hlog := Nat.log2_self_le hq
      have hmono : 2 ^ ((num / den).log2 + 1 - 53) ≤ 2 ^ (num / den).log2 :=
        Nat.pow_le_pow_right (by omega) (by omega)
      show 2 ^ ((num / den).log2 + 1 - 53) ≤ num / den + 1
      omega
  unfold roundUnits
  simp only
  generalize Nat.pow 2 (droppedBits (num / den)) = p at hpow
  have hround := roundDiv_le num (den * p)
  have hdiv : num / (den * p) * p ≤ num / den := by
    rw [← Nat.div_div_eq_div_mul]
    exact Nat.div_mul_le_self _ _
  calc roundDiv num (den * p) * p ≤ (num / (den * p) + 1) * p := Nat.mul_le_mul_right _ hround
    _ = num / (den * p) * p + p := Nat.succ_mul _ _
    _ ≤ 2 * (num / den) + 1 := by omega

/-- Twice a power of two and one unit more is less than the next power but one. -/
theorem small_lt_pow {k n m : Nat} (hm : k + 2 ≤ m) :
    2 * (Nat.pow 2 k * Nat.pow 2 n) + 1 < Nat.pow 2 (m + n) := by
  have hpos : 1 ≤ Nat.pow 2 k * Nat.pow 2 n := Nat.mul_pos Nat.one_le_two_pow Nat.one_le_two_pow
  have hsplit : Nat.pow 2 (m + n) = Nat.pow 2 m * Nat.pow 2 n := Nat.pow_add 2 m n
  have hle : Nat.pow 2 (k + 2) ≤ Nat.pow 2 m := Nat.pow_le_pow_right (by decide) hm
  have hfour : Nat.pow 2 (k + 2) * Nat.pow 2 n = 4 * (Nat.pow 2 k * Nat.pow 2 n) := by
    have hsucc : Nat.pow 2 (k + 2) = 4 * Nat.pow 2 k := by
      show 2 ^ (k + 2) = 4 * 2 ^ k
      rw [Nat.pow_add]
      omega
    rw [hsucc, Nat.mul_assoc]
  rw [hsplit]
  calc 2 * (Nat.pow 2 k * Nat.pow 2 n) + 1 < 4 * (Nat.pow 2 k * Nat.pow 2 n) := by omega
    _ = Nat.pow 2 (k + 2) * Nat.pow 2 n := hfour.symm
    _ ≤ Nat.pow 2 m * Nat.pow 2 n := Nat.mul_le_mul_right _ hle

theorem ofUnits_of_lt (negative : Bool) {num den : Nat} (h : roundUnits num den < overflowUnits) :
    ofUnits negative num den = .finite negative (roundUnits num den) := by
  unfold ofUnits
  exact if_pos h

/-- Magnitudes up to this power of two are far from the end of the format. -/
def safeBits : Nat := 1000

/-- Rounding a magnitude far from the end does not leave the format. -/
theorem ofQuotient_of_le (negative : Bool) {num : Nat} (h : num ≤ Nat.pow 2 safeBits) (den : Nat) :
    ∃ units, ofQuotient negative num den = .finite negative units := by
  have hlimit := small_lt_pow (n := unitBits) (show safeBits + 2 ≤ 1024 by decide)
  have hround := roundUnits_le (num * Nat.pow 2 unitBits) den
  have hdiv := Nat.div_le_self (num * Nat.pow 2 unitBits) den
  have hmul : num * Nat.pow 2 unitBits ≤ Nat.pow 2 safeBits * Nat.pow 2 unitBits :=
    Nat.mul_le_mul_right _ h
  refine ⟨_, ofUnits_of_lt negative ?_⟩
  unfold overflowUnits
  generalize Nat.pow 2 (1024 + unitBits) = limit at *
  generalize Nat.pow 2 unitBits = p at *
  omega

/-- An integer far from the end is a number of the format, but for rounding. -/
theorem ofInt_ok {n : Int} (h : n.natAbs ≤ Nat.pow 2 safeBits) : ∃ x, ofInt n = .ok x := by
  obtain ⟨units, hunits⟩ := ofQuotient_of_le (decide (n < 0)) h 1
  exact ⟨.finite _ units, by rw [ofInt, ofInt?, hunits, finite?, orOverflow]⟩

/-- A quotient whose numerator is far from the end is a number of the format, but for rounding. -/
theorem quotient_ok {a b : Int} (ha : a.natAbs ≤ Nat.pow 2 safeBits) :
    ∃ x, quotient a b = .ok x := by
  obtain ⟨units, hunits⟩ := ofQuotient_of_le (decide (a < 0) != decide (b < 0)) ha b.natAbs
  exact ⟨.finite _ units, by rw [quotient, quotient?, hunits, finite?, orOverflow]⟩

end ContractBuild.Binary64
