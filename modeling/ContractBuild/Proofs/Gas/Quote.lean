import ContractBuild.Proofs.Gas.Construct
import ContractBuild.Proofs.Number.Order

/-!
# Quotes of parts of a source

A quote counts characters and constructs. Both grow with the source, so a source has a quote if a
longer one has (`quote_of_le`); all that can keep it from one is an astronomic length
(`quote_returns`).

Main statement: the quotes of two parts of a source tell the quote of the whole, but for the price
of one construct (`quote_append`).
-/

set_option autoImplicit false

namespace ContractBuild.Gas

-- The powers of two of the format are too large to be written out by a definitional check.
attribute [local irreducible] Binary64.unitBits Binary64.safeBits

open Binary64 (quotientUnits productUnits overflowUnits unitBits safeBits)

/-! ## Hundredths -/

/-- The whole part of a number, which has to be finite. -/
def wholePart (x : Binary64) : Except FloatOverflow Int :=
  match x.truncate? with
  | some n => .ok n
  | none => .error .integer

theorem hundredth_eq (gas : Int) :
    hundredth gas =
      (Binary64.ofInt gas).bind fun x => wholePart (x.mul (Binary64.literal 1 100)) := by
  unfold hundredth Binary64.intMul
  cases Binary64.ofInt gas with
  | error e => rfl
  | ok x => rfl

theorem wholePart_returns_iff (p : Prop) [Decidable p] (units : Nat) (negative : Bool) :
    (∃ part, wholePart (if p then .finite negative units else .infinite negative) = .ok part) ↔
      p := by
  by_cases hp : p
  · rw [if_pos hp]
    exact iff_of_true ⟨_, rfl⟩ hp
  · rw [if_neg hp]
    refine iff_of_false ?_ hp
    rintro ⟨part, hpart⟩
    cases hpart

/-- The number nearest to a hundredth, in units. -/
def hundredthUnits : Nat :=
  quotientUnits 1 100

/-- An amount of gas has a hundredth if neither the amount nor the product leaves the format. -/
theorem hundredth_returns_iff (gas : Nat) :
    (∃ part, hundredth gas = .ok part) ↔
      quotientUnits gas 1 < overflowUnits ∧
        productUnits (quotientUnits gas 1) hundredthUnits < overflowUnits := by
  have hliteral : Binary64.literal 1 100 = .finite false hundredthUnits :=
    Binary64.literal_of_le (by decide) (by decide)
  rw [hundredth_eq, hliteral, Binary64.ofInt_natCast]
  by_cases hgas : quotientUnits gas 1 < overflowUnits
  · have hbind : ∀ (x : Binary64) (f : Binary64 → Except FloatOverflow Int),
        (Except.ok x : Except FloatOverflow Binary64).bind f = f x := fun _ _ => rfl
    rw [if_pos hgas, and_iff_right hgas, hbind, Binary64.mul_finite, wholePart_returns_iff]
  · rw [if_neg hgas]
    refine iff_of_false ?_ fun hboth => hgas hboth.1
    rintro ⟨part, hpart⟩
    cases hpart

/-- A smaller amount of gas has a hundredth as well. -/
theorem hundredth_of_le {m n : Nat} (h : m ≤ n) (hn : ∃ part, hundredth n = .ok part) :
    ∃ part, hundredth m = .ok part := by
  rw [hundredth_returns_iff] at hn ⊢
  have hgas := Binary64.quotientUnits_mono Nat.one_pos h
  exact ⟨Nat.lt_of_le_of_lt hgas hn.1,
    Nat.lt_of_le_of_lt (Binary64.productUnits_mono hgas) hn.2⟩

/-- An amount of gas far from the end of the format has a hundredth. -/
theorem hundredth_returns {gas : Nat} (h : gas ≤ Nat.pow 2 safeBits) :
    ∃ part, hundredth gas = .ok part := by
  have hgas := Binary64.quotientUnits_one_le gas
  have hhundredth : quotientUnits 1 100 ≤ Nat.pow 2 unitBits :=
    Binary64.quotientUnits_le_one (by decide) (by decide)
  have hproduct := Binary64.productUnits_le (quotientUnits gas 1) hhundredth
  have hamount : gas * Nat.pow 2 unitBits ≤ Nat.pow 2 safeBits * Nat.pow 2 unitBits :=
    Nat.mul_le_mul_right _ h
  have hlimit := Binary64.safe_lt_overflow
  rw [hundredth_returns_iff, hundredthUnits]
  generalize Nat.pow 2 safeBits * Nat.pow 2 unitBits = safe at *
  generalize gas * Nat.pow 2 unitBits = amount at *
  constructor <;> omega

/-! ## Quotes -/

variable {s t : Text}

/-- A quote tells the gas of the source, and its hundredth. -/
theorem quote_eq_ok_iff {q : DeploymentQuote} :
    quote s = .ok q ↔ hundredth (equivalentGas s) = .ok q.gas ∧
      q.equivalent = equivalentGas s ∧ q.savings = deploymentSavings := by
  obtain ⟨gas, equivalent, savings⟩ := q
  unfold quote
  cases hundredth (equivalentGas s) with
  | error e => simp [Except.map]
  | ok part => simp [Except.map, eq_comm]

theorem quote_returns_iff : (∃ q, quote s = .ok q) ↔
    ∃ part, hundredth (equivalentGas s) = .ok part := by
  constructor
  · rintro ⟨q, hq⟩
    exact ⟨q.gas, (quote_eq_ok_iff.1 hq).1⟩
  · rintro ⟨part, hpart⟩
    exact ⟨⟨part, equivalentGas s, deploymentSavings⟩, quote_eq_ok_iff.2 ⟨hpart, rfl, rfl⟩⟩

/-- A source has a quote if one has that takes no less gas. -/
theorem quote_of_le (h : equivalentGas s ≤ equivalentGas t) (ht : ∃ q, quote t = .ok q) :
    ∃ q, quote s = .ok q :=
  quote_returns_iff.2 (hundredth_of_le h (quote_returns_iff.1 ht))

/-- A source has a quote if the price that its length allows at most is far from the end of the
format. -/
theorem quote_returns (h : 21000 + 510 * s.length ≤ Nat.pow 2 safeBits) :
    ∃ q, quote s = .ok q := by
  have hcount := constructCount_le_length s
  refine quote_returns_iff.2 (hundredth_returns (Nat.le_trans ?_ h))
  unfold equivalentGas baseDeploymentGas gasPerCharacter gasPerConstruct
  omega

/-- The gas of two parts is that of the whole and of one more empty contract, but for the one
construct that the cut may go through. -/
theorem equivalentGas_append (s t : Text) :
    equivalentGas s + equivalentGas t ≤ equivalentGas (s ++ t) + 21000 ∧
      equivalentGas (s ++ t) + 21000 ≤ equivalentGas s + equivalentGas t + 500 := by
  obtain ⟨hlower, hupper⟩ := constructCount_append s t
  unfold equivalentGas baseDeploymentGas gasPerCharacter gasPerConstruct
  rw [List.length_append]
  omega

/-- Each character of a source is paid for. -/
theorem le_equivalentGas (s : Text) : 21000 + 10 * s.length ≤ equivalentGas s := by
  unfold equivalentGas baseDeploymentGas gasPerCharacter
  omega

/-- The quotes of two parts of a source add up to the quote of the whole, less the price of an empty
contract, and but for the price of one construct; a text that is appended is paid for by its
characters at least. -/
theorem quote_append (s t : Text) :
    (21000 + 510 * (s ++ t).length ≤ Nat.pow 2 safeBits → ∃ q, quote (s ++ t) = .ok q) ∧
      ∀ q, quote (s ++ t) = .ok q → ∃ qs qt, quote s = .ok qs ∧ quote t = .ok qt ∧
        qs.equivalent + qt.equivalent - 21000 ≤ q.equivalent ∧
        q.equivalent ≤ qs.equivalent + qt.equivalent - 21000 + 500 ∧
        qs.equivalent + 10 * t.length ≤ q.equivalent ∧
        constructCount s + constructCount t ≤ constructCount (s ++ t) ∧
        constructCount (s ++ t) ≤ constructCount s + constructCount t + 1 := by
  obtain ⟨hlower, hupper⟩ := equivalentGas_append s t
  have hs := le_equivalentGas s
  have ht := le_equivalentGas t
  refine ⟨quote_returns, fun q hq => ?_⟩
  obtain ⟨qs, hqs⟩ := quote_of_le (s := s) (by omega) ⟨q, hq⟩
  obtain ⟨qt, hqt⟩ := quote_of_le (s := t) (by omega) ⟨q, hq⟩
  have hgas := (quote_eq_ok_iff.1 hq).2.1
  have hgass := (quote_eq_ok_iff.1 hqs).2.1
  have hgast := (quote_eq_ok_iff.1 hqt).2.1
  obtain ⟨hfewer, hmore⟩ := constructCount_append s t
  exact ⟨qs, qt, hqs, hqt, by omega, by omega, by omega, hfewer, hmore⟩

/-- A cut through a keyword whose last letter begins another one: the second keyword counts only in
its part, the first one only in the whole, and the quotes of the parts add up exactly. -/
theorem quote_append_sharedLetter :
    21000 + 510 * (("imp" : Text) ++ ("let" : Text)).length ≤ Nat.pow 2 safeBits ∧
      ∃ q qs qt, quote (("imp" : Text) ++ ("let" : Text)) = .ok q ∧ quote "imp" = .ok qs ∧
        quote "let" = .ok qt ∧ qs.equivalent = 21030 ∧ qt.equivalent = 21530 ∧
        qs.equivalent + qt.equivalent - 21000 ≤ q.equivalent ∧
        q.equivalent ≤ qs.equivalent + qt.equivalent - 21000 + 500 := by
  have hlength : 21000 + 510 * (("imp" : Text) ++ ("let" : Text)).length ≤ Nat.pow 2 safeBits := by
    decide +kernel
  obtain ⟨hreturns, hparts⟩ := quote_append "imp" "let"
  obtain ⟨q, hq⟩ := hreturns hlength
  obtain ⟨qs, qt, hqs, hqt, hlower, hupper, -⟩ := hparts q hq
  have himp : equivalentGas "imp" = 21030 := by decide
  have hlet : equivalentGas "let" = 21530 := by decide
  have hgass := (quote_eq_ok_iff.1 hqs).2.1
  have hgast := (quote_eq_ok_iff.1 hqt).2.1
  rw [himp] at hgass
  rw [hlet] at hgast
  exact ⟨hlength, q, qs, qt, hq, hqs, hqt, hgass, hgast, hlower, hupper⟩

end ContractBuild.Gas
