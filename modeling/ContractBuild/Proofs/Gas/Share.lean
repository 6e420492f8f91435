import ContractBuild.Proofs.Gas.Profile
import ContractBuild.Proofs.Number.Accuracy
import Mathlib.Algebra.BigOperators.Ring.List
import Mathlib.Algebra.Order.BigOperators.Group.List

/-!
# Shares of a profile

A share is rounded twice, once as a quotient and once as a percentage. Both roundings keep the order
of the amounts, and each moves the share by at most the part `2⁻⁵³` of it. So the shares of a
profile add up to a hundred, but for a small part of it, however many opcodes share the gas.

Main statement: `profile_apportions`.
-/

set_option autoImplicit false

namespace ContractBuild.Gas

-- The powers of two of the format are too large to be written out by a definitional check.
attribute [local irreducible] Binary64.unitBits Binary64.safeBits

open Binary64 (quotientUnits productUnits precision unitBits safeBits finite)

/-! ## One share -/

/-- The percentage that an amount of gas is of the total, in units. -/
def shareUnits (gas total : Nat) : Nat :=
  productUnits (quotientUnits gas total) (100 * Nat.pow 2 unitBits)

variable {gas gas' total : Nat}

theorem shareUnits_le (htotal : 0 < total) (h : gas ≤ total) :
    shareUnits gas total ≤ 100 * Nat.pow 2 unitBits := by
  refine Binary64.roundUnits_le_of_exact Binary64.unit_pos
    (Binary64.isExact_mul_pow (by decide) unitBits) ?_
  rw [Nat.mul_comm (100 * Nat.pow 2 unitBits)]
  exact Nat.mul_le_mul_right _ (Binary64.quotientUnits_le_one htotal h)

theorem shareUnits_mono (htotal : 0 < total) (h : gas ≤ gas') :
    shareUnits gas total ≤ shareUnits gas' total :=
  Binary64.productUnits_mono (Binary64.quotientUnits_mono htotal h)

/-- A part of a total that is not negative has a percentage. -/
theorem percentage_natCast (htotal : 0 < total) (h : gas ≤ total) :
    percentage gas total = .ok (finite false (shareUnits gas total)) := by
  have hlimit : shareUnits gas total < Binary64.overflowUnits :=
    Nat.lt_of_le_of_lt (shareUnits_le htotal h)
      (Binary64.mul_unit_lt_overflow (Binary64.small_le_safe (by decide)))
  have hproduct : (finite false (quotientUnits gas total)).mul (Binary64.literal 100 1) =
      finite false (shareUnits gas total) := by
    rw [Binary64.literal_nat (by decide), Binary64.mul_finite]
    exact if_pos hlimit
  rw [percentage, if_neg (by omega), Binary64.quotient_natCast htotal h, Except.map, hproduct]

/-- Three roundings would move a share by no more than this part of it. -/
def shareError : ℚ :=
  3 / 2 ^ precision

theorem shareUnits_zero (htotal : 0 < total) : shareUnits 0 total = 0 := by
  have hzero : Binary64.IsExact 0 := Nat.dvd_zero _
  have hquotient : quotientUnits 0 total = 0 :=
    Nat.le_zero.1 (Binary64.roundUnits_le_of_exact htotal hzero (by omega))
  rw [shareUnits, hquotient]
  exact Nat.le_zero.1 (Binary64.roundUnits_le_of_exact Binary64.unit_pos hzero (by omega))

/-- The percentage is told but for a small part of it. -/
theorem abs_share_sub_le (htotal : 0 < total) (hbound : total ≤ Nat.pow 2 safeBits) :
    |(finite false (shareUnits gas total)).value - 100 * (gas / total)| ≤
      100 * (gas / total) * shareError := by
  rcases Nat.eq_zero_or_pos gas with rfl | hgas
  · rw [shareUnits_zero htotal, Binary64.value_finite]
    simp
  · have hfill : 2 ^ (precision - 1) ≤ quotientUnits gas total := by
      have hexact : Binary64.IsExact (1 * Nat.pow 2 (precision - 1)) :=
        Binary64.isExact_mul_pow (by decide) _
      rw [Nat.one_mul] at hexact
      exact Binary64.le_roundUnits_of_exact htotal hexact (Binary64.fill_le_of_le_safe hgas hbound)
    have hquotient := Binary64.abs_quotientUnits_sub_le hgas htotal hbound
    have hproduct := Binary64.abs_productUnits_sub_le hfill (k := 100) (by decide)
    have hpow : (1 : ℚ) ≤ 2 ^ precision := one_le_pow₀ (by norm_num)
    have hshare : (0 : ℚ) ≤ gas / total := by positivity
    unfold shareUnits shareError
    generalize (finite false (productUnits _ _)).value = share at *
    generalize (finite false (quotientUnits gas total)).value = rounded at *
    generalize (gas / total : ℚ) = quotient at *
    generalize (2 : ℚ) ^ precision = k at *
    -- the quotient is at most doubled, so the second rounding costs at most twice the first
    have hdouble : rounded ≤ 2 * quotient := by
      have hsmall : quotient / k ≤ quotient := div_le_self hshare hpow
      linarith [(abs_le.1 hquotient).2]
    have hsecond : 100 * rounded / k ≤ 100 * (2 * quotient) / k :=
      div_le_div_of_nonneg_right (by linarith) (by linarith)
    calc |share - 100 * quotient|
        = |(share - (100 : ℕ) * rounded) + 100 * (rounded - quotient)| := by
          congr 1
          push_cast
          ring
      _ ≤ |share - (100 : ℕ) * rounded| + |100 * (rounded - quotient)| := abs_add_le _ _
      _ ≤ 100 * rounded / k + 100 * (quotient / k) := by
          rw [abs_mul, abs_of_pos (by norm_num : (0 : ℚ) < 100)]
          exact add_le_add (by exact_mod_cast hproduct) (by linarith)
      _ ≤ 100 * (2 * quotient) / k + 100 * (quotient / k) := by linarith
      _ = 100 * quotient * (3 / k) := by ring

/-! ## The entries of a profile -/

variable {pricing : Pricing} {table : CostTable} {stream : List Text} {p : Profile}

/-- What an opcode costs is not negative if nothing in the table is. -/
theorem cost_nonneg (h : ∀ opcode cost, table.lookup opcode = some cost → 0 ≤ cost)
    (opcode : Text) : 0 ≤ table.cost opcode := by
  unfold CostTable.cost
  cases hcost : table.lookup opcode with
  | none => decide
  | some cost => exact h opcode cost hcost

/-- A tally is a part of the total. -/
theorem gas_of_mem_tallies (hcosts : ∀ opcode, 0 ≤ table.cost opcode) {t : Tally}
    (ht : t ∈ tallies table stream) : 0 ≤ t.gas ∧ t.gas ≤ totalGas (tallies table stream) := by
  have hnonneg : ∀ t ∈ tallies table stream, 0 ≤ t.gas := by
    intro t ht
    rw [tallies_eq] at ht
    obtain ⟨opcode, -, rfl⟩ := List.mem_map.1 ht
    exact Int.mul_nonneg (Int.natCast_nonneg _) (hcosts opcode)
  refine ⟨hnonneg t ht, ?_⟩
  rw [totalGas, gasSum_eq_sum]
  refine List.single_le_sum (fun gas hgas => ?_) t.gas (List.mem_map_of_mem ht)
  obtain ⟨t', ht', rfl⟩ := List.mem_map.1 hgas
  exact hnonneg t' ht'

/-- An entry is that of a tally of the stream. -/
theorem exists_tally_of_mem (h : profile pricing table stream = .ok p) {op : OperationCost}
    (hop : op ∈ p.operations) : ∃ t ∈ tallies table stream, t.operation p.total = .ok op := by
  obtain ⟨-, hops, -, -⟩ := profile_eq_ok_iff.1 h
  generalize tallies table stream = ts at *
  generalize p.operations = ops at *
  induction hops with
  | nil => cases hop
  | cons hfirst _ ih =>
    rcases List.mem_cons.1 hop with rfl | hrest
    · exact ⟨_, List.mem_cons_self, hfirst⟩
    · obtain ⟨t, ht, hoperation⟩ := ih hrest
      exact ⟨t, List.mem_cons_of_mem _ ht, hoperation⟩

/-- The gas of an entry is a part of the total, and its share is the percentage of it. -/
theorem gas_and_share_of_mem (hcosts : ∀ opcode, 0 ≤ table.cost opcode)
    (h : profile pricing table stream = .ok p) {op : OperationCost} (hop : op ∈ p.operations) :
    0 ≤ op.gas ∧ op.gas ≤ p.total ∧ percentage op.gas p.total = .ok op.share := by
  obtain ⟨t, ht, hoperation⟩ := exists_tally_of_mem h hop
  obtain ⟨share, hshare, rfl⟩ := map_eq_ok_iff.1 hoperation
  obtain ⟨hnonneg, hle⟩ := gas_of_mem_tallies hcosts ht
  rw [← (profile_eq_ok_iff.1 h).1] at hle
  exact ⟨hnonneg, hle, hshare⟩

/-- The gas of the entries is the total. -/
theorem sum_gas_of_profile (h : profile pricing table stream = .ok p) :
    (p.operations.map (·.gas)).sum = p.total := by
  have hgas := congrArg (List.map (·.2.2.1)) (figures_of_profile h)
  rw [List.map_map, List.map_map] at hgas
  rw [total_of_profile h, ← sum_map_eraseDups stream table.cost]
  exact congrArg List.sum hgas

/-- A stream has a profile if nothing costs less than zero and the total is far from the end of the
floating-point format. -/
theorem profile_returns_of_nonneg (pricing : Pricing) (hcosts : ∀ opcode, 0 ≤ table.cost opcode)
    (hbound : (stream.map table.cost).sum ≤ Nat.pow 2 safeBits) :
    ∃ p, profile pricing table stream = .ok p := by
  rw [← totalGas_tallies] at hbound
  have hnonneg : 0 ≤ totalGas (tallies table stream) := by
    rw [totalGas_tallies]
    refine List.sum_nonneg fun cost hcost => ?_
    obtain ⟨opcode, -, rfl⟩ := List.mem_map.1 hcost
    exact hcosts opcode
  refine profile_returns pricing (fun t ht => ?_) (by omega)
  have hgas := gas_of_mem_tallies hcosts ht
  omega

/-! ## All shares -/

/-- The shares tell how the gas is distributed, in percent. -/
structure Profile.IsApportioned (p : Profile) : Prop where
  finite : ∀ op ∈ p.operations, op.share.finite? = some op.share
  nonneg : ∀ op ∈ p.operations, 0 ≤ op.share.value
  le_hundred : ∀ op ∈ p.operations, op.share.value ≤ 100
  /-- An opcode with more gas has no smaller share. -/
  mono : ∀ op ∈ p.operations, ∀ op' ∈ p.operations, op.gas ≤ op'.gas →
    op.share.value ≤ op'.share.value
  sum_near : |(p.operations.map (·.share.value)).sum - 100| < 1 / 10

theorem isApportioned_of_profile (hcosts : ∀ opcode, 0 ≤ table.cost opcode)
    (h : profile pricing table stream = .ok p) (htotal : 0 < p.total)
    (hbound : p.total ≤ Nat.pow 2 safeBits) : p.IsApportioned := by
  have hpos : 0 < p.total.toNat := by omega
  have hgas : ∀ op ∈ p.operations, op.gas.toNat ≤ p.total.toNat := by
    intro op hop
    have hle := (gas_and_share_of_mem hcosts h hop).2.1
    omega
  have hshare : ∀ op ∈ p.operations,
      op.share = finite false (shareUnits op.gas.toNat p.total.toNat) := by
    intro op hop
    obtain ⟨hnonneg, -, hpercentage⟩ := gas_and_share_of_mem hcosts h hop
    have hcast := percentage_natCast hpos (hgas op hop)
    rw [Int.toNat_of_nonneg hnonneg, Int.toNat_of_nonneg htotal.le, hpercentage] at hcast
    exact Except.ok.inj hcast
  constructor
  case finite =>
    intro op hop
    rw [hshare op hop]
    rfl
  case nonneg =>
    intro op hop
    rw [hshare op hop]
    exact Binary64.value_nonneg _
  case le_hundred =>
    intro op hop
    rw [hshare op hop]
    exact Binary64.value_le (shareUnits_le hpos (hgas op hop))
  case mono =>
    intro op hop op' hop' hle
    rw [hshare op hop, hshare op' hop']
    exact Binary64.value_mono (shareUnits_mono hpos (Int.toNat_le_toNat hle))
  case sum_near =>
    have hnear : ∀ op ∈ p.operations, |op.share.value - op.gas * (100 / p.total)| ≤
        op.gas * (100 / p.total) * shareError := by
      intro op hop
      have hround := @abs_share_sub_le op.gas.toNat _ hpos (by omega)
      rw [← hshare op hop] at hround
      have hcast : ∀ n : Int, 0 ≤ n → ((n.toNat : ℚ) = n) := fun n hn =>
        congrArg (Int.cast (R := ℚ)) (Int.toNat_of_nonneg hn)
      have hexact : (100 * (op.gas.toNat / p.total.toNat) : ℚ) = op.gas * (100 / p.total) := by
        rw [hcast _ (gas_and_share_of_mem hcosts h hop).1, hcast _ htotal.le]
        ring
      rwa [hexact] at hround
    have hsum := Binary64.abs_sum_sub_le hnear
    have hwhole : (p.operations.map fun op => (op.gas * (100 / p.total) : ℚ)).sum = 100 := by
      have hgas : (p.operations.map fun op => (op.gas : ℚ)).sum = p.total := by
        have hcasts := map_list_sum (Int.castRingHom ℚ) (p.operations.map (·.gas))
        rw [List.map_map, sum_gas_of_profile h] at hcasts
        exact hcasts.symm
      have htotal' : (p.total : ℚ) ≠ 0 := Int.cast_ne_zero.2 htotal.ne'
      rw [List.sum_map_mul_right, hgas, mul_div_cancel₀ _ htotal']
    rw [hwhole, List.sum_map_mul_right, hwhole] at hsum
    exact hsum.trans_lt (by rw [shareError, precision]; norm_num)

/-- Each stream of operations that cost nothing less than zero has a profile, and its shares tell
how the gas is distributed; of a total of zero every share is zero. -/
theorem profile_apportions (pricing : Pricing)
    (hcosts : ∀ opcode cost, table.lookup opcode = some cost → 0 ≤ cost)
    (hbound : (stream.map table.cost).sum < 2 ^ 1000) :
    ∃ p, profile pricing table stream = .ok p ∧ (0 < p.total → p.IsApportioned) ∧
      (p.total = 0 → ∀ op ∈ p.operations, op.share = finite false 0) := by
  have hsafe : (2 ^ 1000 : Int) = (Nat.pow 2 safeBits : Nat) := by
    rw [Nat.pow_eq, Nat.cast_pow, safeBits]
    rfl
  obtain ⟨p, hp⟩ := profile_returns_of_nonneg pricing (cost_nonneg hcosts) (hsafe ▸ hbound.le)
  refine ⟨p, hp, fun htotal => ?_, fun htotal op hop => ?_⟩
  · refine isApportioned_of_profile (cost_nonneg hcosts) hp htotal ?_
    rw [total_of_profile hp]
    exact hsafe ▸ hbound.le
  · have hshare := (gas_and_share_of_mem (cost_nonneg hcosts) hp hop).2.2
    rw [percentage, if_pos htotal] at hshare
    exact (Except.ok.inj hshare).symm

/-- Three opcodes, two of them unlisted, have a third of the gas each, which no share can tell
exactly, and a fourth one costs nothing. -/
theorem profile_apportions_thirds :
    (∀ opcode cost, List.lookup opcode ([("call", 2), ("add", 0)] : CostTable) = some cost →
      0 ≤ cost) ∧
      ((["nop", "call", "add", "log"] : List Text).map
        (CostTable.cost [("call", 2), ("add", 0)])).sum < 2 ^ 1000 ∧
      ∃ p, profile ⟨.literal 1 10, .literal 3500 1⟩ [("call", 2), ("add", 0)]
        ["nop", "call", "add", "log"] = .ok p ∧ p.total = 6 ∧ p.IsApportioned := by
  have hcosts : ∀ opcode cost, List.lookup opcode ([("call", 2), ("add", 0)] : CostTable) =
      some cost → 0 ≤ cost := by
    intro opcode cost h
    simp only [List.lookup_cons, List.lookup_nil] at h
    grind
  have hsum : ((["nop", "call", "add", "log"] : List Text).map
      (CostTable.cost [("call", 2), ("add", 0)])).sum = 6 := by
    decide
  have hbound : ((["nop", "call", "add", "log"] : List Text).map
      (CostTable.cost [("call", 2), ("add", 0)])).sum < 2 ^ 1000 := by
    rw [hsum]
    decide +kernel
  obtain ⟨p, hp, happortioned, -⟩ :=
    profile_apportions ⟨.literal 1 10, .literal 3500 1⟩ hcosts hbound
  have htotal : p.total = 6 := (total_of_profile hp).trans hsum
  exact ⟨hcosts, hbound, p, hp, htotal, happortioned (by omega)⟩

end ContractBuild.Gas
