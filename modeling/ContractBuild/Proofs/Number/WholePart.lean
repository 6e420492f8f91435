import ContractBuild.Proofs.Number.Accuracy

/-!
# Whole parts of rounded products

A whole number is multiplied by a fraction in two roundings: the fraction is rounded to a number of
the format, and so is the product with that number. The result may miss the exact product, but for
numbers of up to about fifty bits it has the same whole part. Two things could go wrong:

- a product that is whole, or just above, could be rounded below the whole number; it is not if the
  number nearest to the fraction lacks less than half of what rounding may take (`RoundsHigh`);
- a product just below a whole number could be rounded up to it; it is not, because it stays away
  from the whole number by a part of the denominator.

Main statement: `Binary64.productUnits_div_unit`.
-/

set_option autoImplicit false

namespace ContractBuild.Binary64

-- The powers of two of the format are too large to be written out by a definitional check.
attribute [local irreducible] unitBits safeBits

/-! ## Rounding up to a magnitude -/

/-- Beyond the middle below a whole number, a fraction is rounded to that number at least. -/
theorem le_roundDiv_of_middle {num den n : Nat} (hden : 0 < den)
    (h : 2 * (n * den) < 2 * num + den) : n ≤ roundDiv num den := by
  obtain ⟨-, hlower⟩ := @roundDiv_near num den hden
  apply Nat.le_of_lt_succ
  apply Nat.lt_of_mul_lt_mul_right (a := den)
  rw [Nat.succ_mul]
  omega

/-- A quotient that lacks less than the part `2⁻⁵⁴` of a magnitude of the format is rounded to that
magnitude at least. -/
theorem le_roundUnits_of_near {num den units : Nat} (hden : 0 < den) (hu : IsExact units)
    (h : 2 ^ (precision + 1) * (units * den) < 2 ^ (precision + 1) * num + units * den) :
    units ≤ roundUnits num den := by
  by_cases hle : units * den ≤ num
  · exact le_roundUnits_of_exact hden hu hle
  -- below the magnitude the steps are not wider than at it, so it stands on a step
  have hfloor : num / den ≤ units := by
    apply Nat.div_le_of_le_mul
    rw [Nat.mul_comm]
    omega
  have hstep : Nat.pow 2 (droppedBits (num / den)) ∣ units :=
    Nat.dvd_trans (Nat.pow_dvd_pow 2 (droppedBits_mono hfloor)) hu
  have hnum : num < 2 ^ (precision + droppedBits (num / den)) * den :=
    (Nat.div_lt_iff_lt_mul hden).1 (lt_pow_droppedBits _)
  have hp : 0 < Nat.pow 2 (droppedBits (num / den)) := Nat.pow_pos (by decide)
  rw [Nat.pow_add] at hnum
  unfold roundUnits
  simp only
  change num < 2 ^ precision * Nat.pow 2 (droppedBits (num / den)) * den at hnum
  generalize Nat.pow 2 (droppedBits (num / den)) = p at *
  obtain ⟨k, rfl⟩ := hstep
  have hunits : p * k * den = k * (den * p) := by
    rw [Nat.mul_comm p, Nat.mul_assoc, Nat.mul_comm p]
  rw [hunits] at h
  rw [Nat.mul_assoc, Nat.mul_comm p] at hnum
  rw [Nat.mul_comm p k]
  apply Nat.mul_le_mul_right
  -- counted in steps, the magnitude fits into a significand, and half a step is more than it lacks
  have hpos : 0 < den * p := Nat.mul_pos hden hp
  generalize den * p = step at *
  have hk : k ≤ 2 ^ precision := by
    by_contra hmore
    have hwide : (2 ^ precision + 1) * step ≤ k * step :=
      Nat.mul_le_mul_right step (Nat.lt_of_not_le hmore)
    unfold precision at *
    omega
  have hlack : k * step ≤ 2 ^ precision * step := Nat.mul_le_mul_right step hk
  apply le_roundDiv_of_middle hpos
  unfold precision at *
  omega

/-! ## Products with a fraction -/

/-- The number nearest to the fraction lacks less than the part `2⁻⁵⁴` of it, if it lacks any. -/
def RoundsHigh (num den : Nat) : Prop :=
  2 ^ (precision + 1) * (num * Nat.pow 2 unitBits) <
    2 ^ (precision + 1) * (quotientUnits num den * den) + num * Nat.pow 2 unitBits

/-- One half, three tenths and one hundredth are such fractions. -/
theorem roundsHigh_rates : RoundsHigh 1 2 ∧ RoundsHigh 3 10 ∧ RoundsHigh 1 100 := by
  unfold RoundsHigh
  decide +kernel

variable {num den n : Nat}

/-- The number nearest to a fraction fills a significand, if the fraction is far from the end of the
format. -/
theorem fill_le_quotientUnits (hnum : 0 < num) (hden : 0 < den) (hsafe : den ≤ Nat.pow 2 safeBits) :
    2 ^ (precision - 1) ≤ quotientUnits num den := by
  have hexact : IsExact (2 ^ (precision - 1) * Nat.pow 2 0) := isExact_mul_pow (by decide) 0
  rw [Nat.pow_eq, Nat.pow_zero, Nat.mul_one] at hexact
  exact le_roundUnits_of_exact hden hexact (fill_le_of_le_safe hnum hsafe)

/-- A product that reaches a whole number is not rounded below it. -/
theorem le_productUnits_of_le (hden : 0 < den) (hhigh : RoundsHigh num den) {m : Nat}
    (hm : m < 2 ^ precision) (hle : m * den ≤ n * num) :
    m * Nat.pow 2 unitBits ≤ productUnits (n * Nat.pow 2 unitBits) (quotientUnits num den) := by
  have hunit := unit_pos
  have hexact := isExact_mul_pow hm unitBits
  rcases Nat.eq_zero_or_pos n with rfl | hn
  · have hzero : m = 0 := by
      rw [Nat.zero_mul, Nat.le_zero_eq, Nat.mul_eq_zero] at hle
      omega
    rw [hzero, Nat.zero_mul]
    exact Nat.zero_le _
  apply le_roundUnits_of_near hunit hexact
  unfold RoundsHigh at hhigh
  generalize Nat.pow 2 unitBits = u at *
  generalize quotientUnits num den = c at *
  -- what the fraction lacks, times the whole number, is what the product lacks at most
  have hproduct : 2 ^ (precision + 1) * (n * num * (u * u)) <
      2 ^ (precision + 1) * (n * u * c * den) + n * num * (u * u) := by
    have hscaled := Nat.mul_lt_mul_of_pos_right hhigh (Nat.mul_pos hn hunit)
    generalize 2 ^ (precision + 1) = k at *
    calc k * (n * num * (u * u)) = k * (num * u) * (n * u) := by ring
      _ < (k * (c * den) + num * u) * (n * u) := hscaled
      _ = k * (n * u * c * den) + n * num * (u * u) := by ring
  have hwhole : m * u * u * den ≤ n * num * (u * u) := by
    calc m * u * u * den = m * den * (u * u) := by ring
      _ ≤ n * num * (u * u) := Nat.mul_le_mul_right _ hle
  apply Nat.lt_of_mul_lt_mul_right (a := den)
  rw [Nat.add_mul, Nat.mul_assoc, Nat.mul_assoc _ (n * u * c)]
  generalize m * u * u * den = whole at *
  generalize n * u * c * den = product at *
  generalize n * num * (u * u) = exact at *
  unfold precision at *
  omega

theorem productUnits_zero (c : Nat) : productUnits 0 c = 0 := by
  have hwhole : roundUnits (0 * Nat.pow 2 unitBits) (Nat.pow 2 unitBits) = 0 :=
    roundUnits_whole (Nat.dvd_zero _) unit_pos
  rw [Nat.zero_mul] at hwhole
  rw [productUnits, Nat.zero_mul, hwhole]

/-- Both roundings together add less than the part `2⁻⁵²` to the exact product. -/
theorem productUnits_near (hnum : 0 < num) (hden : 0 < den) (hsafe : den ≤ Nat.pow 2 safeBits) :
    2 ^ precision * 2 ^ precision *
        (productUnits (n * Nat.pow 2 unitBits) (quotientUnits num den) * den) ≤
      (2 ^ precision + 1) * (2 ^ precision + 1) * (n * num * Nat.pow 2 unitBits) := by
  rcases Nat.eq_zero_or_pos n with rfl | hn
  · rw [Nat.zero_mul, productUnits_zero, Nat.zero_mul, Nat.mul_zero]
    exact Nat.zero_le _
  have hunit := unit_pos
  have hfill := fill_le_quotientUnits hnum hden hsafe
  obtain ⟨hfraction, -⟩ := roundUnits_near hden (fill_le_of_le_safe hnum hsafe)
  change 2 ^ precision * (quotientUnits num den * den) ≤ _ at hfraction
  have hfillProduct : 2 ^ (precision - 1) * Nat.pow 2 unitBits ≤
      n * Nat.pow 2 unitBits * quotientUnits num den := by
    calc 2 ^ (precision - 1) * Nat.pow 2 unitBits
        ≤ quotientUnits num den * (n * Nat.pow 2 unitBits) :=
          Nat.mul_le_mul hfill (Nat.le_mul_of_pos_left _ hn)
      _ = n * Nat.pow 2 unitBits * quotientUnits num den := Nat.mul_comm _ _
  obtain ⟨hproduct, -⟩ := roundUnits_near hunit hfillProduct
  change 2 ^ precision * (productUnits _ _ * _) ≤ _ at hproduct
  generalize productUnits (n * Nat.pow 2 unitBits) (quotientUnits num den) = product at *
  generalize quotientUnits num den = c at *
  generalize Nat.pow 2 unitBits = u at *
  generalize 2 ^ precision = k at *
  apply Nat.le_of_mul_le_mul_right _ hunit
  calc k * k * (product * den) * u = k * (product * u) * (k * den) := by ring
    _ ≤ (k * (n * u * c) + n * u * c) * (k * den) := Nat.mul_le_mul_right _ hproduct
    _ = (k + 1) * (n * u) * (k * (c * den)) := by ring
    _ ≤ (k + 1) * (n * u) * (k * (num * u) + num * u) := Nat.mul_le_mul_left _ hfraction
    _ = (k + 1) * (k + 1) * (n * num * u) * u := by ring

/-- A product that does not reach a whole number is not rounded to it: it lacks at least one part of
the denominator, and two roundings do not make up for that. -/
theorem productUnits_lt_of_lt (hnum : 0 < num) (hden : 0 < den) (hsafe : den ≤ Nat.pow 2 safeBits)
    (hn : n * num < 2 ^ (precision - 1)) {m : Nat} (hlt : n * num < m * den) :
    productUnits (n * Nat.pow 2 unitBits) (quotientUnits num den) < m * Nat.pow 2 unitBits := by
  have hnear := productUnits_near (n := n) hnum hden hsafe
  have hunit := unit_pos
  generalize productUnits (n * Nat.pow 2 unitBits) (quotientUnits num den) = product at *
  generalize Nat.pow 2 unitBits = u at *
  by_contra hreached
  have hbeyond : (n * num + 1) * u ≤ product * den := by
    calc (n * num + 1) * u ≤ m * den * u := Nat.mul_le_mul_right u hlt
      _ = m * u * den := Nat.mul_right_comm _ _ _
      _ ≤ product * den := Nat.mul_le_mul_right den (Nat.le_of_not_lt hreached)
  have hless : (n * num + 1) * u ≤ 2 ^ (precision - 1) * u := Nat.mul_le_mul_right u hn
  rw [Nat.succ_mul] at hbeyond hless
  unfold precision at *
  omega

/-- The rounded product has the whole part of the exact one. -/
theorem productUnits_div_unit (hnum : 0 < num) (hden : 0 < den) (hsafe : den ≤ Nat.pow 2 safeBits)
    (hhigh : RoundsHigh num den) (hn : n * num < 2 ^ (precision - 1)) :
    productUnits (n * Nat.pow 2 unitBits) (quotientUnits num den) / Nat.pow 2 unitBits =
      n * num / den := by
  have hdown : n * num / den * den ≤ n * num := Nat.div_mul_le_self _ _
  have hup : n * num < (n * num / den + 1) * den :=
    (Nat.div_lt_iff_lt_mul hden).1 (Nat.lt_succ_self _)
  apply Nat.div_eq_of_lt_le
  · apply le_productUnits_of_le hden hhigh _ hdown
    have hle := Nat.div_le_self (n * num) den
    unfold precision at *
    omega
  · exact productUnits_lt_of_lt hnum hden hsafe hn hup

end ContractBuild.Binary64
