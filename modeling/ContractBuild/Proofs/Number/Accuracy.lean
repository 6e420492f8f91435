import ContractBuild.Proofs.Number.Order
import Mathlib.Tactic.Linarith
import Mathlib.Tactic.Positivity
import Mathlib.Tactic.Ring

/-!
# How near a rounded number is

A quotient with enough bits to fill a significand is rounded to a number that differs from it by at
most the part `2⁻⁵³` of the quotient. Errors of that kind add up to the same part of the sum,
however many quotients there are.

Main statements: `Binary64.abs_roundUnits_sub_le`, `Binary64.abs_sum_sub_le`.
-/

set_option autoImplicit false

namespace ContractBuild.Binary64

-- The powers of two of the format are too large to be written out by a definitional check.
attribute [local irreducible] unitBits safeBits

/-! ## Values -/

/-- The exact value of a finite number. The others have none; zero stands for it. -/
def value : Binary64 → ℚ
  | .finite negative units => signedUnits negative units / 2 ^ unitBits
  | .infinite _ => 0
  | .notANumber => 0

theorem value_finite (units : Nat) : (finite false units).value = units / 2 ^ unitBits := by
  rw [value, signedUnits, if_neg Bool.false_ne_true, Int.cast_natCast]

theorem value_nonneg (units : Nat) : 0 ≤ (finite false units).value := by
  rw [value_finite]
  positivity

theorem value_mono {a b : Nat} (h : a ≤ b) :
    (finite false a).value ≤ (finite false b).value := by
  rw [value_finite, value_finite]
  exact div_le_div_of_nonneg_right (Nat.cast_le.2 h) (by positivity)

theorem value_le {units k : Nat} (h : units ≤ k * Nat.pow 2 unitBits) :
    (finite false units).value ≤ k := by
  rw [value_finite, div_le_iff₀ (by positivity)]
  exact_mod_cast h

/-! ## One rounding -/

/-- The distance from the quotient is at most the part `2⁻⁵³` of it, if the quotient fills a
significand. -/
theorem roundUnits_near {num den : Nat} (hden : 0 < den) (h : 2 ^ (precision - 1) * den ≤ num) :
    2 ^ precision * (roundUnits num den * den) ≤ 2 ^ precision * num + num ∧
      2 ^ precision * num ≤ 2 ^ precision * (roundUnits num den * den) + num := by
  -- a significand is filled after its low bits are left out as well
  have hfill : 2 ^ (precision - 1) * (den * Nat.pow 2 (droppedBits (num / den))) ≤ num := by
    by_cases hbits : droppedBits (num / den) = 0
    · rw [hbits, Nat.pow_eq, Nat.pow_zero, Nat.mul_one]
      exact h
    · have hpow := (Nat.le_div_iff_mul_le hden).1 (pow_le_of_droppedBits hbits)
      rwa [Nat.pow_add, Nat.mul_assoc, Nat.mul_comm _ den] at hpow
  have hp : 0 < Nat.pow 2 (droppedBits (num / den)) := Nat.pow_pos (by decide)
  unfold roundUnits
  simp only
  generalize Nat.pow 2 (droppedBits (num / den)) = p at *
  obtain ⟨hupper, hlower⟩ := @roundDiv_near num _ (Nat.mul_pos hden hp)
  have hunits : roundDiv num (den * p) * p * den = roundDiv num (den * p) * (den * p) := by
    rw [Nat.mul_assoc, Nat.mul_comm p]
  have hdouble : 2 ^ precision = 2 ^ (precision - 1) * 2 := by decide
  rw [hunits, hdouble]
  generalize roundDiv num (den * p) * (den * p) = rounded at *
  generalize 2 ^ (precision - 1) = k at *
  constructor
  · calc k * 2 * rounded = k * (2 * rounded) := Nat.mul_assoc _ _ _
      _ ≤ k * (2 * num + den * p) := Nat.mul_le_mul_left k hupper
      _ = k * 2 * num + k * (den * p) := by rw [Nat.mul_add, Nat.mul_assoc]
      _ ≤ k * 2 * num + num := Nat.add_le_add_left hfill _
  · calc k * 2 * num = k * (2 * num) := Nat.mul_assoc _ _ _
      _ ≤ k * (2 * rounded + den * p) := Nat.mul_le_mul_left k hlower
      _ = k * 2 * rounded + k * (den * p) := by rw [Nat.mul_add, Nat.mul_assoc]
      _ ≤ k * 2 * rounded + num := Nat.add_le_add_left hfill _

theorem abs_roundUnits_sub_le {num den : Nat} (hden : 0 < den)
    (h : 2 ^ (precision - 1) * den ≤ num) :
    |(roundUnits num den : ℚ) - num / den| ≤ num / den / 2 ^ precision := by
  obtain ⟨hupper, hlower⟩ := roundUnits_near hden h
  have hden' : (0 : ℚ) < den := Nat.cast_pos.2 hden
  have hpow : (0 : ℚ) < 2 ^ precision := by positivity
  have hnum : (num : ℚ) = num / den * den := (div_mul_cancel₀ _ hden'.ne').symm
  have hupper' : (2 : ℚ) ^ precision * (roundUnits num den * den) ≤ 2 ^ precision * num + num := by
    exact_mod_cast hupper
  have hlower' : (2 : ℚ) ^ precision * num ≤ 2 ^ precision * (roundUnits num den * den) + num := by
    exact_mod_cast hlower
  generalize (roundUnits num den : ℚ) = units at *
  generalize (2 : ℚ) ^ precision = k at *
  generalize (num : ℚ) / den = quotient at *
  rw [hnum] at hupper' hlower'
  rw [abs_le, neg_le, neg_sub, le_div_iff₀ hpow, le_div_iff₀ hpow]
  constructor
  · refine le_of_mul_le_mul_right ?_ hden'
    linarith
  · refine le_of_mul_le_mul_right ?_ hden'
    linarith

/-- A quotient by a number far from the end of the format fills a significand. -/
theorem fill_le_of_le_safe {num den : Nat} (hnum : 0 < num) (hden : den ≤ Nat.pow 2 safeBits) :
    2 ^ (precision - 1) * den ≤ num * Nat.pow 2 unitBits := by
  have hbits : precision - 1 + safeBits ≤ unitBits := by
    unfold precision safeBits unitBits
    decide
  calc 2 ^ (precision - 1) * den ≤ 2 ^ (precision - 1) * Nat.pow 2 safeBits :=
        Nat.mul_le_mul_left _ hden
    _ = 2 ^ (precision - 1 + safeBits) := (Nat.pow_add _ _ _).symm
    _ ≤ 1 * Nat.pow 2 unitBits :=
        (Nat.one_mul _).symm ▸ Nat.pow_le_pow_right (by decide) hbits
    _ ≤ num * Nat.pow 2 unitBits := Nat.mul_le_mul_right _ hnum

/-- A distance in units, told as a part of what is rounded, is the same part of the value. -/
theorem abs_value_sub_le {units : Nat} {x k : ℚ}
    (h : |(units : ℚ) - x * 2 ^ unitBits| ≤ x * 2 ^ unitBits / k) :
    |(finite false units).value - x| ≤ x / k := by
  have hunit : (0 : ℚ) < 2 ^ unitBits := by positivity
  rw [value_finite]
  generalize (2 : ℚ) ^ unitBits = unit at *
  have hdistance : (units / unit - x : ℚ) = (units - x * unit) / unit := by
    rw [sub_div, mul_div_cancel_right₀ _ hunit.ne']
  rw [hdistance, abs_div, abs_of_pos hunit, div_le_iff₀ hunit, div_mul_eq_mul_div]
  exact h

/-- The number nearest to a quotient tells it but for the part `2⁻⁵³`, if the divisor is far from
the end of the format. -/
theorem abs_quotientUnits_sub_le {num den : Nat} (hnum : 0 < num) (hden : 0 < den)
    (h : den ≤ Nat.pow 2 safeBits) :
    |(finite false (quotientUnits num den)).value - num / den| ≤ num / den / 2 ^ precision := by
  have hround := abs_roundUnits_sub_le hden (fill_le_of_le_safe hnum h)
  rw [Nat.cast_mul, Nat.pow_eq, Nat.cast_pow, Nat.cast_ofNat, mul_div_right_comm] at hround
  exact abs_value_sub_le hround

/-- The number nearest to the product of a number and a whole number tells it but for the part
`2⁻⁵³`, if the number fills a significand. -/
theorem abs_productUnits_sub_le {units k : Nat} (h : 2 ^ (precision - 1) ≤ units) (hk : 0 < k) :
    |(finite false (productUnits units (k * Nat.pow 2 unitBits))).value -
      k * (finite false units).value| ≤ k * (finite false units).value / 2 ^ precision := by
  have hfill : 2 ^ (precision - 1) * Nat.pow 2 unitBits ≤ units * (k * Nat.pow 2 unitBits) := by
    rw [← Nat.mul_assoc]
    exact Nat.mul_le_mul_right _ (Nat.le_trans h (Nat.le_mul_of_pos_right _ hk))
  have hround := abs_roundUnits_sub_le unit_pos hfill
  have hexact : ((units * (k * Nat.pow 2 unitBits) : Nat) : ℚ) / (Nat.pow 2 unitBits : Nat) =
      k * (finite false units).value * 2 ^ unitBits := by
    rw [value_finite, Nat.cast_mul, Nat.cast_mul, Nat.pow_eq, Nat.cast_pow, Nat.cast_ofNat]
    ring
  rw [hexact] at hround
  exact abs_value_sub_le hround

/-! ## Sums -/

/-- Of two lists that are term by term within a distance, the sums are within the sum of the
distances. -/
theorem abs_sum_sub_le {α : Type} {xs : List α} {f g distance : α → ℚ}
    (h : ∀ x ∈ xs, |f x - g x| ≤ distance x) :
    |(xs.map f).sum - (xs.map g).sum| ≤ (xs.map distance).sum := by
  induction xs with
  | nil => simp
  | cons x xs ih =>
    have hfirst := h x List.mem_cons_self
    have hrest := ih fun y hy => h y (List.mem_cons_of_mem x hy)
    rw [List.map_cons, List.map_cons, List.map_cons, List.sum_cons, List.sum_cons, List.sum_cons,
      add_sub_add_comm]
    exact (abs_add_le _ _).trans (add_le_add hfirst hrest)

end ContractBuild.Binary64
