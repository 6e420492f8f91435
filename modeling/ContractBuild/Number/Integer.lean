import ContractBuild.Number.Binary64
import ContractBuild.Text.Basic

/-!
# Integers as floating-point numbers

Integers have no bound, floating-point numbers have one. An integer beyond it is refused, and
so is a quotient of integers whose value is beyond it.
-/

set_option autoImplicit false

namespace ContractBuild

/-- What is too large to be a floating-point number. -/
inductive FloatOverflow
  | integer
  | quotient
  deriving DecidableEq, Repr

/-- The wording of an overflow. -/
def FloatOverflow.message : FloatOverflow → Text
  | integer => "int too large to convert to float"
  | quotient => "integer division result too large for a float"

namespace Binary64

/-- The number, if there is one; else what is too large to be one. -/
def orOverflow (fault : FloatOverflow) : Option Binary64 → Except FloatOverflow Binary64
  | some x => .ok x
  | none => .error fault

/-- The number nearest to an integer. -/
def ofInt (n : Int) : Except FloatOverflow Binary64 :=
  orOverflow .integer (ofInt? n)

/-- The number nearest to the quotient of two integers. -/
def quotient (a b : Int) : Except FloatOverflow Binary64 :=
  orOverflow .quotient (quotient? a b)

/-- An integer times a number. -/
def intMul (n : Int) (x : Binary64) : Except FloatOverflow Binary64 :=
  (ofInt n).map (·.mul x)

/-- The number nearest to `numerator / denominator`, for a literal of a rule. -/
def literal (numerator denominator : Nat) : Binary64 :=
  ofQuotient false numerator denominator

end Binary64

end ContractBuild
