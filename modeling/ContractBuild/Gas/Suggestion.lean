import ContractBuild.Gas.Opcode
import ContractBuild.Number.Integer
import ContractBuild.Text.Numeral

/-!
# Suggestions

What to improve in a contract, from the costs of its operations. The rules are tried in a
fixed order, and the general advice always comes last.
-/

set_option autoImplicit false

namespace ContractBuild.Gas

/-- The cost of all operations with one opcode. -/
structure OperationCost where
  name : Text
  opcode : Text
  gas : Int
  share : Binary64
  count : Int
  category : Text
  deriving DecidableEq, Repr

/-- The gas of the operations of one category. -/
def categoryGas (operations : List OperationCost) (category : OperationCategory) : Int :=
  gasSum ((operations.filter (·.category = category.name)).map (·.gas))

/-- More gas than this is a lot for one contract. -/
def gasCeiling : Int := 100000

/-- An operation that occurs more often than this is repeated. -/
def repetitionLimit : Int := 10

/-- Whether an amount of gas exceeds `numerator / denominator` of the total. -/
def exceedsShare (gas total : Int) (numerator denominator : Nat) : Except FloatOverflow Bool :=
  (Binary64.intMul total (Binary64.literal numerator denominator)).map (Binary64.intExceeds gas)

/-- The operation that occurs most often; of several the first one. -/
def mostFrequent? (operations : List OperationCost) : Option OperationCost :=
  operations.foldl (fun best op => match best with
    | none => some op
    | some b => if b.count < op.count then some op else some b) none

/-! ## The advice -/

/-- For a contract that mostly works on storage. -/
def storageAdvice : Text :=
  "Storage operations account for over 50% of gas usage. " ++
    "Consider batching storage writes or using memory for temporary data."

/-- For an operation that occurs very often. -/
def repetitionAdvice (op : OperationCost) : Text :=
  "Operation \"" ++ op.name ++ "\" is called " ++ Text.ofInt op.count ++
    " times. Consider caching results or optimizing the loop."

/-- For a contract that spends much on calls. -/
def callAdvice : Text :=
  "Function calls are expensive. Consider inlining small functions or reducing call depth."

/-- For a contract that costs much in all. -/
def ceilingAdvice : Text :=
  "Consider using more efficient data structures like packed storage " ++
    "or bit manipulation to reduce gas costs."

/-- For a contract that divides. -/
def divisionAdvice : Text :=
  "Integer division is expensive. " ++
    "If dividing by powers of 2, use bit shifting (>> operator) instead."

/-- For every contract. -/
def generalAdvice : Text :=
  "Stylus contracts benefit from Rust's zero-cost abstractions. " ++
    "Use iterators and avoid unnecessary allocations."

/-- The advice for these operations. -/
def suggest (operations : List OperationCost) (total : Int) : Except FloatOverflow (List Text) := do
  let storage ← exceedsShare (categoryGas operations .storage) total 1 2
  let worst := mostFrequent? (operations.filter (repetitionLimit < ·.count))
  let calls ← exceedsShare (categoryGas operations .call) total 3 10
  return (if storage then [storageAdvice] else []) ++ (worst.map repetitionAdvice).toList ++
    (if calls then [callAdvice] else []) ++
    (if gasCeiling < total then [ceilingAdvice] else []) ++
    (if operations.any fun op => Text.contains "div" op.opcode then [divisionAdvice] else []) ++
    [generalAdvice]

end ContractBuild.Gas
