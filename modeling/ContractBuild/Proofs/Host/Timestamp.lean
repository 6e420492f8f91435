import ContractBuild.Host.Timestamp
import ContractBuild.Proofs.Number.Rounding

/-!
# Distances between times

The distance between two times is refused only if it is beyond the floating-point format. Times that
a calendar can show are never so far apart.

Main statement: `Timestamp.secondsTo_ok`.
-/

set_option autoImplicit false

namespace ContractBuild

/-! ## Real times -/

namespace Timestamp

/-- The fields are those of a date and a time of day, up to the last year that has four digits. -/
structure IsReal (t : Timestamp) : Prop where
  year : t.year ≤ 9999
  day : t.day ≤ 31
  hour : t.hour ≤ 23
  minute : t.minute ≤ 59
  second : t.second ≤ 59
  microsecond : t.microsecond ≤ 999999

theorem microsecondsTo_le {start finish : Timestamp} (hs : start.IsReal) (hf : finish.IsReal) :
    (start.microsecondsTo finish).natAbs ≤ Nat.pow 2 64 := by
  have hday : ∀ {t : Timestamp}, t.IsReal → t.dayNumber ≤ 4000000 := by
    intro t ht
    obtain ⟨hy, hd, -, -, -, -⟩ := ht
    unfold dayNumber
    simp only
    split <;> omega
  have htime : ∀ {t : Timestamp}, t.IsReal → t.microsecondOfDay ≤ 86400000000 := by
    intro t ht
    obtain ⟨-, -, hh, hm, hsec, hmicro⟩ := ht
    unfold microsecondOfDay
    omega
  have := hday hs
  have := hday hf
  have := htime hs
  have := htime hf
  unfold microsecondsTo
  show _ ≤ 2 ^ 64
  omega

/-- The distance between real times is a number. -/
theorem secondsTo_ok {start finish : Timestamp} (hs : start.IsReal) (hf : finish.IsReal) :
    ∃ x, start.secondsTo finish = .ok x := by
  have hbits : 64 ≤ Binary64.safeBits := by decide
  apply Binary64.quotient_ok
  -- the power itself is never computed
  generalize Binary64.safeBits = bits at hbits ⊢
  exact Nat.le_trans (microsecondsTo_le hs hf) (Nat.pow_le_pow_right (by decide) hbits)

end Timestamp

end ContractBuild
