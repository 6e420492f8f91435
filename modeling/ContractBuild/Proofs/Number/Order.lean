import ContractBuild.Proofs.Number.Rounding
import Mathlib.Algebra.Group.Nat.Defs

/-!
# Rounding keeps the order

A greater quotient is never rounded to a smaller number, also where the two have significands of
different steps, and a magnitude of the format is not changed. So a quotient stays on its side of
every magnitude of the format, and quotients and products of numbers that are not negative grow with
the numbers.

Main statements: `Binary64.roundUnits_mono`, `Binary64.roundUnits_whole`.
-/

set_option autoImplicit false

namespace ContractBuild.Binary64

-- The powers of two of the format are too large to be written out by a definitional check.
attribute [local irreducible] unitBits safeBits

/-! ## Rounding to whole numbers -/

theorem div_le_roundDiv (num den : Nat) : num / den ≤ roundDiv num den := by
  unfold roundDiv
  simp only
  split
  · exact Nat.le_refl _
  · split
    · exact Nat.le_add_right _ _
    · exact Nat.le_succ _

theorem le_roundDiv {num den n : Nat} (hden : 0 < den) (h : n * den ≤ num) :
    n ≤ roundDiv num den :=
  Nat.le_trans ((Nat.le_div_iff_mul_le hden).2 h) (div_le_roundDiv num den)

/-- Of two fractions, compared across, the greater one has no smaller whole part. -/
theorem div_le_div_of_cross {a b c d : Nat} (hb : 0 < b) (hd : 0 < d) (h : a * d ≤ c * b) :
    a / b ≤ c / d := by
  rw [Nat.le_div_iff_mul_le hd]
  refine Nat.le_of_mul_le_mul_right ?_ hb
  calc a / b * d * b = a / b * b * d := Nat.mul_right_comm _ _ _
    _ ≤ a * d := Nat.mul_le_mul_right d (Nat.div_mul_le_self a b)
    _ ≤ c * b := h

/-- The greater of two fractions is not rounded to a smaller number. -/
theorem roundDiv_mono {a b c d : Nat} (hb : 0 < b) (hd : 0 < d) (h : a * d ≤ c * b) :
    roundDiv a b ≤ roundDiv c d := by
  have hfloor := div_le_div_of_cross hb hd h
  rcases Nat.lt_or_eq_of_le hfloor with hlt | heq
  · exact Nat.le_trans (roundDiv_le a b) (Nat.le_trans hlt (div_le_roundDiv c d))
  · -- with one whole part the remainders decide, and they keep the order
    have hrest : a % b * d ≤ c % d * b := by
      have ha := Nat.div_add_mod a b
      have hc := Nat.div_add_mod c d
      rw [← heq] at hc
      rw [← ha, ← hc, Nat.add_mul, Nat.add_mul] at h
      have hsame : b * (a / b) * d = d * (a / b) * b := by
        rw [Nat.mul_right_comm, Nat.mul_assoc, Nat.mul_comm b, Nat.mul_right_comm, Nat.mul_comm d]
      omega
    have hdouble : 2 * (a % b) * d ≤ 2 * (c % d) * b := by
      rw [Nat.mul_assoc, Nat.mul_assoc]
      exact Nat.mul_le_mul_left 2 hrest
    have hhalf : b ≤ 2 * (a % b) → d ≤ 2 * (c % d) := by
      intro hle
      refine Nat.le_of_mul_le_mul_right ?_ hb
      calc d * b ≤ d * (2 * (a % b)) := Nat.mul_le_mul_left d hle
        _ = 2 * (a % b) * d := Nat.mul_comm _ _
        _ ≤ 2 * (c % d) * b := hdouble
    have habove : b < 2 * (a % b) → d < 2 * (c % d) := by
      intro hlt
      refine Nat.lt_of_mul_lt_mul_right (a := b) ?_
      calc d * b < d * (2 * (a % b)) := Nat.mul_lt_mul_of_pos_left hlt hd
        _ = 2 * (a % b) * d := Nat.mul_comm _ _
        _ ≤ 2 * (c % d) * b := hdouble
    simp only [roundDiv, heq]
    repeat' split
    all_goals omega

/-! ## The step of a significand -/

theorem lt_pow_droppedBits (q : Nat) : q < 2 ^ (precision + droppedBits q) := by
  refine Nat.lt_of_lt_of_le Nat.lt_log2_self (Nat.pow_le_pow_right (by decide) ?_)
  unfold droppedBits
  omega

/-- A magnitude with bits to leave out fills the significand. -/
theorem pow_le_of_droppedBits {q : Nat} (h : droppedBits q ≠ 0) :
    2 ^ (precision - 1 + droppedBits q) ≤ q := by
  have hq : q ≠ 0 := by
    rintro rfl
    exact h (by decide)
  have hexponent : precision - 1 + droppedBits q = q.log2 := by
    unfold droppedBits precision at h ⊢
    omega
  rw [hexponent]
  exact Nat.log2_self_le hq

theorem droppedBits_mono {q q' : Nat} (h : q ≤ q') : droppedBits q ≤ droppedBits q' := by
  by_cases hq : q = 0
  · subst hq
    exact Nat.zero_le _
  · have hlog : q.log2 ≤ q'.log2 :=
      (Nat.le_log2 (by omega)).2 (Nat.le_trans (Nat.log2_self_le hq) h)
    unfold droppedBits
    omega

/-! ## Rounding to the format -/

/-- A power of two at the scale of the bits that are left out. -/
theorem pow_mul_scale (e den s : Nat) : 2 ^ e * (den * Nat.pow 2 s) = 2 ^ (e + s) * den := by
  rw [Nat.pow_add, Nat.mul_assoc, Nat.mul_comm den]
  rfl

/-- What is rounded does not go beyond the power of two above it. -/
theorem roundUnits_le_pow {num den : Nat} (hden : 0 < den) :
    roundUnits num den ≤ 2 ^ (precision + droppedBits (num / den)) := by
  have hlt := lt_pow_droppedBits (num / den)
  unfold roundUnits
  simp only
  generalize droppedBits (num / den) = s at *
  have hpos : 0 < den * Nat.pow 2 s := Nat.mul_pos hden (Nat.pow_pos (by decide))
  have hround : roundDiv num (den * Nat.pow 2 s) ≤ 2 ^ precision := by
    rw [← roundDiv_whole (2 ^ precision) hpos]
    refine roundDiv_mono hpos hpos (Nat.mul_le_mul_right _ ?_)
    have hfloor : num < 2 ^ (precision + s) * den := (Nat.div_lt_iff_lt_mul hden).1 hlt
    calc num ≤ 2 ^ (precision + s) * den := Nat.le_of_lt hfloor
      _ = 2 ^ precision * (den * Nat.pow 2 s) := (pow_mul_scale precision den s).symm
  rw [Nat.pow_add]
  exact Nat.mul_le_mul_right _ hround

/-- What is rounded with bits left out does not go below the power of two under it. -/
theorem pow_le_roundUnits {num den : Nat} (hden : 0 < den) (h : droppedBits (num / den) ≠ 0) :
    2 ^ (precision - 1 + droppedBits (num / den)) ≤ roundUnits num den := by
  have hle := pow_le_of_droppedBits h
  unfold roundUnits
  simp only
  generalize droppedBits (num / den) = s at *
  have hpos : 0 < den * Nat.pow 2 s := Nat.mul_pos hden (Nat.pow_pos (by decide))
  rw [Nat.pow_add]
  refine Nat.mul_le_mul_right _ (le_roundDiv hpos ?_)
  calc 2 ^ (precision - 1) * (den * Nat.pow 2 s)
      = 2 ^ (precision - 1 + s) * den := pow_mul_scale (precision - 1) den s
    _ ≤ num := (Nat.le_div_iff_mul_le hden).1 hle

/-- The greater of two quotients is not rounded to a smaller magnitude. -/
theorem roundUnits_mono {a b c d : Nat} (hb : 0 < b) (hd : 0 < d) (h : a * d ≤ c * b) :
    roundUnits a b ≤ roundUnits c d := by
  have hfloor := div_le_div_of_cross hb hd h
  rcases Nat.lt_or_eq_of_le (droppedBits_mono hfloor) with hlt | heq
  · -- between two steps stands a power of two that neither side crosses
    have hne : droppedBits (c / d) ≠ 0 := Nat.ne_zero_of_lt hlt
    refine Nat.le_trans (roundUnits_le_pow hb) (Nat.le_trans ?_ (pow_le_roundUnits hd hne))
    refine Nat.pow_le_pow_right (by decide) ?_
    unfold precision
    omega
  · unfold roundUnits
    simp only [heq]
    generalize Nat.pow 2 (droppedBits (c / d)) = p at *
    rcases Nat.eq_zero_or_pos p with rfl | hp
    · exact Nat.le_refl _
    · refine Nat.mul_le_mul_right p (roundDiv_mono (Nat.mul_pos hb hp) (Nat.mul_pos hd hp) ?_)
      rw [← Nat.mul_assoc, ← Nat.mul_assoc]
      exact Nat.mul_le_mul_right p h

/-- A magnitude of the format: the bits that a significand leaves out are zeros. -/
def IsExact (units : Nat) : Prop :=
  Nat.pow 2 (droppedBits units) ∣ units

/-- A magnitude of the format is not changed by rounding. -/
theorem roundUnits_whole {units den : Nat} (h : IsExact units) (hden : 0 < den) :
    roundUnits (units * den) den = units := by
  obtain ⟨significand, hunits⟩ := h
  unfold roundUnits
  simp only [Nat.mul_div_cancel _ hden]
  generalize Nat.pow 2 (droppedBits units) = p at *
  rw [hunits]
  rcases Nat.eq_zero_or_pos p with rfl | hp
  · simp
  · have hfraction : p * significand * den = significand * (den * p) := by
      rw [Nat.mul_comm p, Nat.mul_assoc, Nat.mul_comm p]
    rw [hfraction, roundDiv_whole _ (Nat.mul_pos hden hp), Nat.mul_comm]

/-- A power of two, taken no more often than a significand can say, is a magnitude of the format. -/
theorem isExact_mul_pow {k : Nat} (hk : k < 2 ^ precision) (n : Nat) :
    IsExact (k * Nat.pow 2 n) := by
  have hbits : droppedBits (k * Nat.pow 2 n) ≤ n := by
    by_cases hzero : k * Nat.pow 2 n = 0
    · rw [hzero]
      exact Nat.zero_le n
    · have hlt : k * Nat.pow 2 n < 2 ^ (precision + n) := by
        rw [Nat.pow_add]
        exact Nat.mul_lt_mul_of_pos_right hk (Nat.pow_pos (by decide))
      have hlog := (Nat.log2_lt hzero).2 hlt
      unfold droppedBits
      omega
  exact Nat.dvd_trans (Nat.pow_dvd_pow 2 hbits) (Nat.dvd_mul_left _ _)

/-- A quotient up to a magnitude of the format is not rounded beyond it. -/
theorem roundUnits_le_of_exact {num den units : Nat} (hden : 0 < den) (hu : IsExact units)
    (h : num ≤ units * den) : roundUnits num den ≤ units := by
  rw [← roundUnits_whole hu hden]
  exact roundUnits_mono hden hden (Nat.mul_le_mul_right den h)

/-- A quotient from a magnitude of the format on is not rounded below it. -/
theorem le_roundUnits_of_exact {num den units : Nat} (hden : 0 < den) (hu : IsExact units)
    (h : units * den ≤ num) : units ≤ roundUnits num den := by
  rw [← roundUnits_whole hu hden]
  exact roundUnits_mono hden hden (Nat.mul_le_mul_right den h)

/-! ## Quotients and products -/

/-- The magnitude of the number nearest to a quotient, in units. -/
def quotientUnits (num den : Nat) : Nat :=
  roundUnits (num * Nat.pow 2 unitBits) den

/-- The magnitude of the product of two numbers, in units. -/
def productUnits (a b : Nat) : Nat :=
  roundUnits (a * b) (Nat.pow 2 unitBits)

theorem unit_pos : 0 < Nat.pow 2 unitBits :=
  Nat.pow_pos (by decide)

theorem ofQuotient_eq (negative : Bool) (num den : Nat) :
    ofQuotient negative num den = if quotientUnits num den < overflowUnits then
      .finite negative (quotientUnits num den) else .infinite negative :=
  rfl

theorem mul_finite (s t : Bool) (a b : Nat) :
    mul (.finite s a) (.finite t b) = if productUnits a b < overflowUnits then
      .finite (s != t) (productUnits a b) else .infinite (s != t) :=
  rfl

theorem quotientUnits_mono {a b den : Nat} (hden : 0 < den) (h : a ≤ b) :
    quotientUnits a den ≤ quotientUnits b den :=
  roundUnits_mono hden hden (Nat.mul_le_mul_right den (Nat.mul_le_mul_right _ h))

theorem productUnits_mono {a b c : Nat} (h : a ≤ b) : productUnits a c ≤ productUnits b c :=
  roundUnits_mono unit_pos unit_pos (Nat.mul_le_mul_right _ (Nat.mul_le_mul_right c h))

/-- A natural number within the precision is exact. -/
theorem quotientUnits_one {n : Nat} (h : n < 2 ^ precision) :
    quotientUnits n 1 = n * Nat.pow 2 unitBits := by
  have hwhole := roundUnits_whole (isExact_mul_pow h unitBits) Nat.one_pos
  rwa [Nat.mul_one] at hwhole

/-- A quotient up to one is at most one. -/
theorem quotientUnits_le_one {num den : Nat} (hden : 0 < den) (h : num ≤ den) :
    quotientUnits num den ≤ Nat.pow 2 unitBits := by
  have hone : IsExact (1 * Nat.pow 2 unitBits) := isExact_mul_pow (by decide) unitBits
  rw [Nat.one_mul] at hone
  exact roundUnits_le_of_exact hden hone (Nat.mul_comm den _ ▸ Nat.mul_le_mul_right _ h)

/-- Rounding at most doubles an integer, one unit apart. -/
theorem quotientUnits_one_le (n : Nat) : quotientUnits n 1 ≤ 2 * (n * Nat.pow 2 unitBits) + 1 := by
  have hround := roundUnits_le (n * Nat.pow 2 unitBits) 1
  rwa [Nat.div_one] at hround

/-- A product with a number up to one is rounded to at most the double of the other factor, one unit
apart. -/
theorem productUnits_le (a : Nat) {b : Nat} (hb : b ≤ Nat.pow 2 unitBits) :
    productUnits a b ≤ 2 * a + 1 := by
  have hround := roundUnits_le (a * b) (Nat.pow 2 unitBits)
  have hdiv : a * b / Nat.pow 2 unitBits ≤ a :=
    Nat.div_le_of_le_mul (Nat.mul_comm a b ▸ Nat.mul_le_mul_right a hb)
  exact Nat.le_trans hround (Nat.succ_le_succ (Nat.mul_le_mul_left 2 hdiv))

/-- What is far from the end of the format does not leave it by doubling it twice. -/
theorem safe_lt_overflow :
    4 * (Nat.pow 2 safeBits * Nat.pow 2 unitBits) + 3 < overflowUnits := by
  have hlimit := small_lt_pow (k := safeBits + 2) (n := unitBits) (m := 1024)
    (by unfold safeBits; decide)
  have hfour : Nat.pow 2 (safeBits + 2) = 4 * Nat.pow 2 safeBits := by
    show 2 ^ (safeBits + 2) = 4 * 2 ^ safeBits
    rw [Nat.pow_add, Nat.mul_comm]
  have hpos : 0 < Nat.pow 2 safeBits * Nat.pow 2 unitBits :=
    Nat.mul_pos (Nat.pow_pos (by decide)) unit_pos
  rw [hfour, Nat.mul_assoc] at hlimit
  unfold overflowUnits
  generalize Nat.pow 2 (1024 + unitBits) = limit at *
  generalize Nat.pow 2 safeBits * Nat.pow 2 unitBits = safe at *
  omega

/-- Small multiples of one are far from the end of the format. -/
theorem mul_unit_lt_overflow {k : Nat} (h : k ≤ Nat.pow 2 safeBits) :
    k * Nat.pow 2 unitBits < overflowUnits := by
  have hle : k * Nat.pow 2 unitBits ≤ Nat.pow 2 safeBits * Nat.pow 2 unitBits :=
    Nat.mul_le_mul_right _ h
  have hlimit := safe_lt_overflow
  generalize Nat.pow 2 safeBits * Nat.pow 2 unitBits = safe at *
  omega

theorem small_le_safe {k : Nat} (h : k ≤ 2 ^ precision) : k ≤ Nat.pow 2 safeBits :=
  Nat.le_trans h (Nat.pow_le_pow_right (by decide) (by unfold safeBits; decide))

/-- The number nearest to a fraction up to one, for a literal of a rule. -/
theorem literal_of_le {num den : Nat} (hden : 0 < den) (h : num ≤ den) :
    literal num den = .finite false (quotientUnits num den) := by
  have hlimit : 1 * Nat.pow 2 unitBits < overflowUnits :=
    mul_unit_lt_overflow (small_le_safe (by decide))
  rw [Nat.one_mul] at hlimit
  rw [literal, ofQuotient_eq, if_pos (Nat.lt_of_le_of_lt (quotientUnits_le_one hden h) hlimit)]

/-- A natural number within the precision, for a literal of a rule. -/
theorem literal_nat {n : Nat} (h : n < 2 ^ precision) :
    literal n 1 = .finite false (n * Nat.pow 2 unitBits) := by
  have hlimit := mul_unit_lt_overflow (small_le_safe (Nat.le_of_lt h))
  rw [literal, ofQuotient_eq, quotientUnits_one h, if_pos hlimit]

/-- An integer that is not negative has a number if it does not leave the format. -/
theorem ofInt_natCast (n : Nat) :
    ofInt n = if quotientUnits n 1 < overflowUnits then .ok (.finite false (quotientUnits n 1))
      else .error .integer := by
  have hsign : decide ((n : Int) < 0) = false := decide_eq_false (by omega)
  rw [ofInt, ofInt?, hsign, Int.natAbs_natCast, ofQuotient_eq]
  split <;> rfl

/-- A quotient that is neither negative nor greater than one has a number. -/
theorem quotient_natCast {num den : Nat} (hden : 0 < den) (h : num ≤ den) :
    quotient num den = .ok (.finite false (quotientUnits num den)) := by
  have hnumber := literal_of_le hden h
  have hsigns : (decide ((num : Int) < 0) != decide ((den : Int) < 0)) = false := by
    rw [decide_eq_false (by omega), decide_eq_false (by omega)]
    rfl
  rw [literal] at hnumber
  rw [quotient, quotient?, hsigns, Int.natAbs_natCast, Int.natAbs_natCast, hnumber]
  rfl

end ContractBuild.Binary64
