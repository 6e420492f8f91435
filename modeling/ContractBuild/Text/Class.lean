import ContractBuild.Text.Basic

/-!
# Character classes

A character class is a list of closed ranges of code points in ascending order. The tables
that use it are named for the property they hold.
-/

set_option autoImplicit false

namespace ContractBuild.Text

/-- A closed range of code points. -/
structure CharRange where
  first : Nat
  last : Nat
  deriving DecidableEq, Repr

/-- Whether the code point of `c` lies in the range. -/
def CharRange.has (r : CharRange) (c : Char) : Bool :=
  r.first ≤ c.toNat && c.toNat ≤ r.last

/-- Ranges written as pairs of their ends. -/
def rangesOf (ends : List (Nat × Nat)) : List CharRange :=
  ends.map fun e => ⟨e.1, e.2⟩

/-- Whether some range of the class holds `c`. -/
def inClass (ranges : List CharRange) (c : Char) : Bool :=
  ranges.any (·.has c)

theorem inClass_iff {ranges : List CharRange} {c : Char} :
    inClass ranges c = true ↔ ∃ r ∈ ranges, r.first ≤ c.toNat ∧ c.toNat ≤ r.last := by
  simp [inClass, CharRange.has]

end ContractBuild.Text
