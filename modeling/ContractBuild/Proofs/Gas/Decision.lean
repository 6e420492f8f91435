import ContractBuild.Proofs.Gas.Quote
import ContractBuild.Proofs.Gas.Suggestion
import ContractBuild.Proofs.Number.WholePart

/-!
# Decisions by rounded products

Suggestions compare an amount of gas with a part of the total, and a quote takes a hundredth of an
amount. The parts are products with numbers of the floating-point format, which are not exactly one
half, three tenths and one hundredth, and the products are rounded. No decision feels it: up to
`2⁵⁰` a product has the whole part of the exact one, and an integer exceeds a number if and only if
it exceeds its whole part.

Main statement: `decisions_exact`.
-/

set_option autoImplicit false

namespace ContractBuild.Gas

-- The powers of two of the format are too large to be written out by a definitional check.
attribute [local irreducible] Binary64.unitBits Binary64.safeBits

open Binary64 (RoundsHigh literal unitBits safeBits precision)

/-! ## Products of amounts -/

/-- A fraction that amounts of gas are multiplied with: rounding keeps the whole parts. -/
structure IsRate (num den : Nat) : Prop where
  pos : 0 < num
  le_den : num ≤ den
  safe : den ≤ Nat.pow 2 safeBits
  small : num ≤ 3
  high : RoundsHigh num den

theorem isRate_half : IsRate 1 2 where
  pos := by decide
  le_den := by decide
  safe := Binary64.small_le_safe (by decide)
  small := by decide
  high := Binary64.roundsHigh_rates.1

theorem isRate_threeTenths : IsRate 3 10 where
  pos := by decide
  le_den := by decide
  safe := Binary64.small_le_safe (by decide)
  small := by decide
  high := Binary64.roundsHigh_rates.2.1

theorem isRate_hundredth : IsRate 1 100 where
  pos := by decide
  le_den := by decide
  safe := Binary64.small_le_safe (by decide)
  small := by decide
  high := Binary64.roundsHigh_rates.2.2

variable {num den n : Nat}

/-- The product of an amount with a rate is a number that is not negative, and has the whole part of
the exact product. -/
theorem exists_intMul (h : IsRate num den) (hn : n ≤ 2 ^ 50) :
    ∃ units, Binary64.intMul n (literal num den) = .ok (.finite false units) ∧
      units / Nat.pow 2 unitBits = n * num / den := by
  have hden : 0 < den := Nat.lt_of_lt_of_le h.pos h.le_den
  have hprecise : n < 2 ^ precision := Nat.lt_of_le_of_lt hn (by decide)
  have hproduct : n * num < 2 ^ (precision - 1) := by
    calc n * num ≤ 2 ^ 50 * 3 := Nat.mul_le_mul hn h.small
      _ < 2 ^ (precision - 1) := by decide
  have hwhole := Binary64.productUnits_div_unit h.pos hden h.safe h.high hproduct
  have hlimit : Binary64.productUnits (n * Nat.pow 2 unitBits) (Binary64.quotientUnits num den) <
      Binary64.overflowUnits := by
    have hbelow : n * num < (n + 1) * den := by
      calc n * num ≤ n * den := Nat.mul_le_mul_left n h.le_den
        _ < (n + 1) * den := Nat.mul_lt_mul_of_pos_right (Nat.lt_succ_self n) hden
    have hlt := Binary64.productUnits_lt_of_lt h.pos hden h.safe hproduct hbelow
    exact Nat.lt_trans hlt (Binary64.mul_unit_lt_overflow (Binary64.small_le_safe hprecise))
  refine ⟨_, ?_, hwhole⟩
  have hamount : n * Nat.pow 2 unitBits < Binary64.overflowUnits :=
    Binary64.mul_unit_lt_overflow (Binary64.small_le_safe (Nat.le_of_lt hprecise))
  rw [Binary64.intMul, Binary64.ofInt_natCast, Binary64.quotientUnits_one hprecise, if_pos hamount,
    Binary64.literal_of_le hden h.le_den]
  show Except.ok (Binary64.mul _ _) = _
  rw [Binary64.mul_finite, if_pos hlimit]
  rfl

/-- An amount exceeds a rate of the total if and only if it does so exactly. -/
theorem exceedsShare_eq (h : IsRate num den) {total : Int} (hnonneg : 0 ≤ total)
    (htotal : total ≤ 2 ^ 50) (gas : Int) :
    exceedsShare gas total num den = .ok (decide (total * num < gas * den)) := by
  obtain ⟨n, rfl⟩ := Int.eq_ofNat_of_zero_le hnonneg
  have hden : 0 < den := Nat.lt_of_lt_of_le h.pos h.le_den
  obtain ⟨units, hunits, hwhole⟩ := exists_intMul h (n := n) (by omega)
  -- an integer exceeds a number if it exceeds the whole part, which is that of the exact product
  have hexceeds : ((units : Int) < gas * (Nat.pow 2 unitBits : Nat)) ↔
      (n : Int) * num < gas * den := by
    rw [← Int.ediv_lt_iff_lt_mul (Int.natCast_pos.2 Binary64.unit_pos),
      ← Int.ediv_lt_iff_lt_mul (Int.natCast_pos.2 hden)]
    have hcast := congrArg Int.ofNat hwhole
    simp only [Int.ofNat_eq_natCast, Int.natCast_ediv, Int.natCast_mul] at hcast
    rw [hcast]
  rw [exceedsShare, hunits]
  show Except.ok (Binary64.intExceeds gas (.finite false units)) = _
  congr 1
  exact decide_eq_decide.2 hexceeds

/-- A hundredth is the exact one rounded down. -/
theorem hundredth_eq_div {gas : Nat} (h : gas ≤ 2 ^ 50) :
    hundredth gas = .ok ((gas / 100 : Nat)) := by
  obtain ⟨units, hunits, hwhole⟩ := exists_intMul isRate_hundredth h
  rw [hundredth, hunits]
  show Except.ok ((units / Nat.pow 2 unitBits : Nat) : Int) = _
  rw [hwhole, Nat.mul_one]

/-! ## Decisions -/

/-- The gas of the entries that name a category. -/
def gasNamed (ops : List OperationCost) (category : Text) : Int :=
  ((ops.filter (·.category = category)).map (·.gas)).sum

theorem categoryGas_eq (ops : List OperationCost) (category : OperationCategory) :
    categoryGas ops category = gasNamed ops category.name :=
  gasSum_eq_sum _

section Advice

variable {ops : List OperationCost} {total : Int} {storage calls : Bool}

theorem storageAdvice_mem_iff :
    storageAdvice ∈ adviceBefore ops total storage calls ++ [generalAdvice] ↔ storage = true := by
  obtain ⟨⟨hcall, hceiling, hdivision, hgeneral⟩, -, -, -⟩ := fixedAdvice_ne
  rw [List.mem_append, fixed_mem_adviceBefore_iff (by simp [fixedAdvice]), List.mem_singleton]
  simp only [hcall, hceiling, hdivision, hgeneral, and_false, or_false, and_true]

theorem callAdvice_mem_iff :
    callAdvice ∈ adviceBefore ops total storage calls ++ [generalAdvice] ↔ calls = true := by
  obtain ⟨⟨hstorage, -⟩, ⟨hceiling, hdivision, hgeneral⟩, -, -⟩ := fixedAdvice_ne
  rw [List.mem_append, fixed_mem_adviceBefore_iff (by simp [fixedAdvice]), List.mem_singleton]
  simp only [hstorage.symm, hceiling, hdivision, hgeneral, and_false, false_or, or_false, and_true]

end Advice

/-- Up to `2⁵⁰`, operations are advised on storage just if it takes more than half of the total, and
on calls just if they take more than three tenths; and a quote is the hundredth part, rounded
down. -/
theorem decisions_exact :
    (∀ (ops : List OperationCost) (total : Int), 0 ≤ total → total ≤ 2 ^ 50 →
      ∃ texts, suggest ops total = .ok texts ∧
        (storageAdvice ∈ texts ↔ total < 2 * gasNamed ops "storage") ∧
        (callAdvice ∈ texts ↔ 3 * total < 10 * gasNamed ops "call")) ∧
      ∀ source : Text, equivalentGas source ≤ 2 ^ 50 →
        ∃ q, quote source = .ok q ∧ q.equivalent = equivalentGas source ∧
          q.gas = equivalentGas source / 100 := by
  constructor
  · intro ops total hnonneg htotal
    have hstorage := exceedsShare_eq isRate_half hnonneg htotal (categoryGas ops .storage)
    have hcalls := exceedsShare_eq isRate_threeTenths hnonneg htotal (categoryGas ops .call)
    refine ⟨_, suggest_eq_ok_iff.2 ⟨_, _, hstorage, hcalls, rfl⟩, ?_, ?_⟩
    · rw [storageAdvice_mem_iff, decide_eq_true_eq, categoryGas_eq]
      change _ < gasNamed ops "storage" * 2 ↔ _
      omega
    · rw [callAdvice_mem_iff, decide_eq_true_eq, categoryGas_eq]
      change _ < gasNamed ops "call" * 10 ↔ _
      omega
  · intro source hsource
    have hquote := quote_eq_ok_iff (s := source)
      (q := ⟨(equivalentGas source / 100 : Nat), equivalentGas source, deploymentSavings⟩)
    exact ⟨_, hquote.2 ⟨hundredth_eq_div hsource, rfl, rfl⟩, rfl, Int.natCast_ediv _ _⟩

/-- Calls that take exactly three tenths of a total near the bound are not advised on, and with one
more unit of gas they are; a source that is one character short of the next hundred is quoted by the
hundreds before. -/
theorem decisions_exact_threeTenths :
    (∃ texts, suggest [⟨"Call", "call", 337769972052786, .finite false 0, 1, "call"⟩]
        1125899906842620 = .ok texts ∧ callAdvice ∉ texts) ∧
      (∃ texts, suggest [⟨"Call", "call", 337769972052787, .finite false 0, 1, "call"⟩]
        1125899906842620 = .ok texts ∧ callAdvice ∈ texts) ∧
      ∃ q, quote "abcdefghi" = .ok q ∧ q.equivalent = 21090 ∧ q.gas = 210 := by
  obtain ⟨hsuggest, hquote⟩ := decisions_exact
  have hgas : equivalentGas "abcdefghi" = 21090 := by decide
  refine ⟨?_, ?_, ?_⟩
  · obtain ⟨texts, htexts, -, hcalls⟩ := hsuggest
      [⟨"Call", "call", 337769972052786, .finite false 0, 1, "call"⟩] 1125899906842620
      (by decide) (by decide)
    exact ⟨texts, htexts, fun hmem => absurd (hcalls.1 hmem) (by decide)⟩
  · obtain ⟨texts, htexts, -, hcalls⟩ := hsuggest
      [⟨"Call", "call", 337769972052787, .finite false 0, 1, "call"⟩] 1125899906842620
      (by decide) (by decide)
    exact ⟨texts, htexts, hcalls.2 (by decide)⟩
  · obtain ⟨q, hq, hequivalent, hhundredth⟩ := hquote "abcdefghi" (by rw [hgas]; decide)
    rw [hgas] at hequivalent hhundredth
    exact ⟨q, hq, hequivalent, hhundredth⟩

end ContractBuild.Gas
