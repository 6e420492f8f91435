import ContractBuild.Number.Binary64
import ContractBuild.Text.Numeral

/-!
# Floating-point numbers as decimal text

A number is first turned into decimal digits, by one of three general rules: the fewest
digits that read back as the number, a given count of significant digits, or a given count
of decimal places. A `FloatLayout` then says where the point stands and when an exponent is
written.
-/

set_option autoImplicit false

namespace ContractBuild

/-- The value `digits · 10 ^ exponent`. -/
structure Decimal where
  digits : Nat
  exponent : Int
  deriving DecidableEq, Repr

namespace Decimal

/-- The same value without zeros at the end of its digits, one step for each unit of fuel. -/
def normalize : Nat → Decimal → Decimal
  | 0, d => d
  | fuel + 1, d =>
    if d.digits ≠ 0 ∧ d.digits % 10 = 0 then normalize fuel ⟨d.digits / 10, d.exponent + 1⟩
    else d

end Decimal

namespace Binary64

/-! ## Magnitudes on a decimal grid -/

/-- A fraction for a magnitude in units, measured in steps of `10 ^ exponent`. -/
def onGrid (units : Nat) (exponent : Int) : Nat × Nat :=
  if 0 ≤ exponent then (units, Nat.pow 2 unitBits * Nat.pow 10 exponent.toNat)
  else (units * Nat.pow 10 (-exponent).toNat, Nat.pow 2 unitBits)

/-- The exponent of the first digit of a magnitude other than zero, or one less: the logarithm
to base two times a lower bound of the decimal logarithm of two. -/
def exponentBound (units : Nat) : Int :=
  Int.fdiv (((units.log2 : Int) - unitBits) * 30102) 100000 - 1

/-- The least exponent from `e` on, with `fuel` tries, above whose decade the magnitude does
not lie. -/
def raiseExponent (units : Nat) : Nat → Int → Int
  | 0, e => e
  | fuel + 1, e =>
    let g := onGrid units (e + 1)
    if g.2 ≤ g.1 then raiseExponent units fuel (e + 1) else e

/-- The decimal exponent of the first digit of a magnitude other than zero. -/
def leadingExponent (units : Nat) : Int :=
  raiseExponent units 4 (exponentBound units)

/-! ## The fewest digits that read back -/

/-- The magnitudes that are rounded to `units` lie between these ends, counted in quarters of
a unit; the ends belong to them if the significand is even. -/
def roundingInterval (units : Nat) : Nat × Nat × Bool :=
  let s := droppedBits units
  let step := Nat.pow 2 s
  let significand := units / step
  let below := if significand = Nat.pow 2 (precision - 1) ∧ 0 < s then step else 2 * step
  (4 * units - below, 4 * units + 2 * step, significand % 2 = 0)

/-- The multiple of `10 ^ exponent` nearest to the magnitude among its two neighbours on that
grid that lie in its rounding interval; an exact tie goes to the even multiple. -/
def gridHit? (units : Nat) (exponent : Int) : Option Nat :=
  let g := onGrid units exponent
  let scale := if 0 ≤ exponent then 1 else Nat.pow 10 (-exponent).toNat
  let i := roundingInterval units
  let inside (n : Nat) : Bool :=
    let v := 4 * (n * g.2)
    let low := i.1 * scale
    let high := i.2.1 * scale
    if i.2.2 then low ≤ v && v ≤ high else low < v && v < high
  let n := g.1 / g.2
  let r := g.1 % g.2
  match inside n, inside (n + 1) with
  | true, true =>
    if 2 * r < g.2 then some n else if g.2 < 2 * r then some (n + 1) else some (n + n % 2)
  | true, false => some n
  | false, true => some (n + 1)
  | false, false => none

/-- The first grid with a hit, from `count` digits on, trying `fuel` further counts. -/
def shortestFrom (units : Nat) (lead : Int) : Nat → Nat → Decimal
  | 0, count => ⟨(onGrid units (lead - count + 1)).1 / (onGrid units (lead - count + 1)).2,
      lead - count + 1⟩
  | fuel + 1, count =>
    match gridHit? units (lead - count + 1) with
    | some n => ⟨n, lead - count + 1⟩
    | none => shortestFrom units lead fuel (count + 1)

/-- The decimal with the fewest digits that reads back as this magnitude, and of those the
nearest. Seventeen digits always suffice. -/
def shortest (units : Nat) : Decimal :=
  if units = 0 then ⟨0, 0⟩
  else Decimal.normalize 20 (shortestFrom units (leadingExponent units) 17 1)

/-! ## A given count of digits or places -/

/-- The magnitude rounded to `count` significant digits, without zeros at their end. -/
def significant (count : Nat) (units : Nat) : Decimal :=
  if units = 0 then ⟨0, 0⟩
  else
    let e := leadingExponent units - count + 1
    let g := onGrid units e
    Decimal.normalize (count + 1) ⟨roundDiv g.1 g.2, e⟩

/-- The magnitude rounded to `places` decimal places, counted in the last of them. -/
def fixedPlaces (places : Nat) (units : Nat) : Nat :=
  roundDiv (units * Nat.pow 10 places) (Nat.pow 2 unitBits)

end Binary64

/-! ## Layout -/

/-- How digits and exponent are written. Positional notation is used for decimal exponents of
the first digit from `leastPlain` to below `firstScientific`; `wholePart` keeps a decimal
point and a zero on whole numbers. -/
structure FloatLayout where
  leastPlain : Int
  firstScientific : Int
  wholePart : Bool
  infinity : Text
  notANumber : Text
  deriving Repr

namespace FloatLayout

/-- The exponent mark: a sign and at least two digits. -/
def exponentText (e : Int) : Text :=
  (if e < 0 then ['e', '-'] else ['e', '+']) ++ Text.padded 2 e.natAbs

/-- The digits of a magnitude, with its point. -/
def magnitudeText (l : FloatLayout) (d : Decimal) : Text :=
  let digits := Text.ofNat d.digits
  let count : Int := digits.length
  let lead := d.exponent + count - 1
  let tail := if l.wholePart then ['.', '0'] else []
  if d.digits = 0 then '0' :: tail
  else if lead < l.leastPlain ∨ l.firstScientific ≤ lead then
    let head := digits.take 1
    let rest := digits.drop 1
    head ++ (if rest.isEmpty then [] else '.' :: rest) ++ exponentText lead
  else if lead < 0 then
    ['0', '.'] ++ List.replicate (-lead - 1).toNat '0' ++ digits
  else if count ≤ lead + 1 then
    digits ++ List.replicate (lead + 1 - count).toNat '0' ++ tail
  else digits.take (lead + 1).toNat ++ ['.'] ++ digits.drop (lead + 1).toNat

/-- The text of a number whose digits `digitsOf` chooses. -/
def text (l : FloatLayout) (digitsOf : Nat → Decimal) : Binary64 → Text
  | .finite negative units =>
    (if negative then ['-'] else []) ++ l.magnitudeText (digitsOf units)
  | .infinite negative => (if negative then ['-'] else []) ++ l.infinity
  | .notANumber => l.notANumber

/-- Data are written positionally from 0.0001 to below 10¹⁶, always with a point or an
exponent. -/
def plain : FloatLayout := ⟨-4, 16, true, "inf", "nan"⟩

/-- The same in structured documents, where the values that are not finite have other names. -/
def document : FloatLayout := ⟨-4, 16, true, "Infinity", "NaN"⟩

/-- Durations in sentences have six significant digits and no idle zeros. -/
def brief : FloatLayout := ⟨-4, 6, false, "inf", "nan"⟩

end FloatLayout

namespace Binary64

/-- The shortest text that reads back. -/
def text (x : Binary64) : Text :=
  FloatLayout.plain.text shortest x

/-- The shortest text that reads back, as structured documents write it. -/
def documentText (x : Binary64) : Text :=
  FloatLayout.document.text shortest x

/-- The text with at most six significant digits. -/
def briefText (x : Binary64) : Text :=
  FloatLayout.brief.text (significant 6) x

/-- The text with exactly `places` decimal places (at least one). -/
def fixedText (places : Nat) : Binary64 → Text
  | .finite negative units =>
    let digits := Text.padded (places + 1) (fixedPlaces places units)
    (if negative then ['-'] else []) ++ digits.take (digits.length - places) ++
      '.' :: digits.drop (digits.length - places)
  | .infinite negative => (if negative then ['-'] else []) ++ "inf"
  | .notANumber => "nan"

end Binary64

end ContractBuild
