/-!
# Binary floating point of 64 bits

A finite number is a sign and a whole number of units of 2⁻¹⁰⁷⁴, the smallest positive
number of the format, so every value is exact and every operation is exact arithmetic on
natural numbers followed by one rounding to the nearest number of the format, a tie going to
the even significand.

Main statements: `roundDiv` is within half a unit of the quotient, and a quotient that is
whole is not changed.
-/

set_option autoImplicit false

namespace ContractBuild

/-- A number of the binary interchange format of 64 bits. -/
inductive Binary64
  /-- The number `± units · 2⁻¹⁰⁷⁴`. -/
  | finite (negative : Bool) (units : Nat)
  | infinite (negative : Bool)
  | notANumber
  deriving DecidableEq, Repr

namespace Binary64

/-! ## The format -/

/-- One is this power of two, counted in units. -/
def unitBits : Nat := 1074

/-- The number of bits of a significand. -/
def precision : Nat := 53

/-- Magnitudes from here on, in units, are beyond the format. -/
def overflowUnits : Nat := Nat.pow 2 (1024 + unitBits)

/-! ## Rounding -/

/-- The whole number nearest to `num / den`; a tie goes to the even one. -/
def roundDiv (num den : Nat) : Nat :=
  let q := num / den
  let r := num % den
  if 2 * r < den then q
  else if 2 * r = den then q + q % 2
  else q + 1

/-- The number of low bits that a significand for the magnitude `q` leaves out. -/
def droppedBits (q : Nat) : Nat :=
  q.log2 + 1 - precision

/-- The magnitude of the format nearest to `num / den`, both counted in units. -/
def roundUnits (num den : Nat) : Nat :=
  let s := droppedBits (num / den)
  roundDiv num (den * Nat.pow 2 s) * Nat.pow 2 s

/-- The number with this sign nearest to `num / den` units. -/
def ofUnits (negative : Bool) (num den : Nat) : Binary64 :=
  let u := roundUnits num den
  if u < overflowUnits then .finite negative u else .infinite negative

/-- The number with this sign nearest to `num / den`. -/
def ofQuotient (negative : Bool) (num den : Nat) : Binary64 :=
  ofUnits negative (num * Nat.pow 2 unitBits) den

/-- The number itself, if it is finite. -/
def finite? : Binary64 → Option Binary64
  | .finite s u => some (.finite s u)
  | _ => none

/-- The integer nearest to the number of the format, or none if it is beyond the format. -/
def ofInt? (n : Int) : Option Binary64 :=
  (ofQuotient (n < 0) n.natAbs 1).finite?

/-- The quotient of two integers rounded once from its exact value, or none if it is beyond
the format. A zero takes its sign from the signs of both. -/
def quotient? (a b : Int) : Option Binary64 :=
  (ofQuotient (decide (a < 0) != decide (b < 0)) a.natAbs b.natAbs).finite?

/-- The nearest number to `significand · 10 ^ exponent`. Exponents far outside the format are
answered without computing the power. -/
def ofDecimal (negative : Bool) (significand : Nat) (exponent : Int) : Binary64 :=
  if significand = 0 then .finite negative 0
  else if exponent > 400 then .infinite negative
  else if 0 ≤ exponent then ofQuotient negative (significand * Nat.pow 10 exponent.toNat) 1
  else if exponent + ((significand.log2 + 1) / 3 : Nat) < -400 then .finite negative 0
  else ofQuotient negative significand (Nat.pow 10 (-exponent).toNat)

/-- A natural number in the format, beyond which stands infinity. -/
def ofNat (n : Nat) : Binary64 :=
  ofQuotient false n 1

/-! ## Arithmetic -/

/-- The product, rounded once. -/
def mul : Binary64 → Binary64 → Binary64
  | .finite s a, .finite t b => ofUnits (s != t) (a * b) (Nat.pow 2 unitBits)
  | .finite s a, .infinite t => if a = 0 then .notANumber else .infinite (s != t)
  | .infinite s, .finite t b => if b = 0 then .notANumber else .infinite (s != t)
  | .infinite s, .infinite t => .infinite (s != t)
  | .notANumber, _ => .notANumber
  | _, .notANumber => .notANumber

/-- The quotient by a finite number other than zero, rounded once. -/
def divFinite (x : Binary64) (divisor : Nat) : Binary64 :=
  match x with
  | .finite s a => ofUnits s a divisor
  | .infinite s => .infinite s
  | .notANumber => .notANumber

/-- The integer towards zero, or none if the number is not finite. -/
def truncate? : Binary64 → Option Int
  | .finite s u =>
    let n : Int := (u / Nat.pow 2 unitBits : Nat)
    some (if s then -n else n)
  | _ => none

/-! ## Order -/

/-- The exact value in units, for a finite number. -/
def signedUnits (negative : Bool) (units : Nat) : Int :=
  if negative then -(units : Int) else units

/-- Whether the integer is greater than the number; exact on both sides. -/
def intExceeds (n : Int) : Binary64 → Bool
  | .finite s u => signedUnits s u < n * (Nat.pow 2 unitBits : Nat)
  | .infinite s => s
  | .notANumber => false

/-- Whether the number is greater than zero. -/
def isPositive : Binary64 → Bool
  | .finite s u => !s && u != 0
  | .infinite s => !s
  | .notANumber => false

/-- Whether the number is zero or greater than zero. -/
def isNonnegative : Binary64 → Bool
  | .finite s u => !s || u == 0
  | .infinite s => !s
  | .notANumber => false

/-- Whether the number is a zero of either sign. -/
def isZero : Binary64 → Bool
  | .finite _ u => u == 0
  | _ => false

/-! ## Laws of rounding -/

theorem roundDiv_whole (q : Nat) {den : Nat} (h : 0 < den) : roundDiv (q * den) den = q := by
  simp [roundDiv, Nat.mul_div_cancel _ h, h]

/-- Twice the distance from the quotient is at most one. -/
theorem roundDiv_near {num den : Nat} (h : 0 < den) :
    2 * (roundDiv num den * den) ≤ 2 * num + den ∧
      2 * num ≤ 2 * (roundDiv num den * den) + den := by
  have hd := Nat.div_add_mod num den
  have hm := Nat.mod_lt num h
  rw [Nat.mul_comm] at hd
  unfold roundDiv
  simp only
  split
  · omega
  · split
    · have hp := Nat.mod_two_eq_zero_or_one (num / den)
      rcases hp with hp | hp <;> rw [hp] <;> simp only [Nat.add_mul, Nat.add_zero] <;> omega
    · simp only [Nat.add_mul]; omega

example : ofInt? 3 = some (.finite false (3 * 2 ^ 1074)) := by decide +kernel

example : quotient? 0 (-19) = some (.finite true 0) := by decide +kernel

end Binary64

end ContractBuild
