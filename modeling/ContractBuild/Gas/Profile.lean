import ContractBuild.Gas.Stream
import ContractBuild.Gas.Suggestion

/-!
# Gas profiles

The gas of a stream of operations: the total, the share of each opcode, the price in ether,
and suggestions what to improve. Opcodes stand in the order in which the stream has them
first.
-/

set_option autoImplicit false

namespace ContractBuild.Gas

/-! ## Tallies -/

/-- How often an opcode occurs, and what that costs in all. -/
structure Tally where
  opcode : Text
  gas : Int
  count : Nat
  deriving DecidableEq, Repr

/-- The tallies with one more operation. -/
def addOperation (table : CostTable) (opcode : Text) : List Tally → List Tally
  | [] => [⟨opcode, table.cost opcode, 1⟩]
  | t :: rest =>
    if t.opcode = opcode then
      { t with gas := t.gas + table.cost opcode, count := t.count + 1 } :: rest
    else t :: addOperation table opcode rest

/-- The tallies of a stream. -/
def tallies (table : CostTable) (stream : List Text) : List Tally :=
  stream.foldl (fun ts opcode => addOperation table opcode ts) []

/-- The gas of all tallies. -/
def totalGas (ts : List Tally) : Int :=
  gasSum (ts.map (·.gas))

/-! ## Prices -/

/-- What gas costs in giga-units of the coin, and what the coin costs. -/
structure Pricing where
  gwei : Binary64
  usd : Binary64
  deriving DecidableEq, Repr

/-- The cost of an amount of gas: the product of gas and both prices, from left to right,
divided by a thousand million. -/
def Pricing.cost (p : Pricing) (gas : Int) : Except FloatOverflow Binary64 :=
  (Binary64.intMul gas p.gwei).map fun x => (x.mul p.usd).divFinite 1000000000

/-! ## Profiles -/

/-- The gas profile of a stream. -/
structure Profile where
  total : Int
  operations : List OperationCost
  cost : Binary64
  suggestions : List Text
  deriving DecidableEq, Repr

/-- The percentage that `gas` is of `total`: the quotient and its product with 100, each
rounded; of a total of zero everything is zero. -/
def percentage (gas total : Int) : Except FloatOverflow Binary64 :=
  if total = 0 then .ok (.finite false 0)
  else (Binary64.quotient gas total).map (·.mul (Binary64.literal 100 1))

/-- The entry of a profile for one tally. -/
def Tally.operation (total : Int) (t : Tally) : Except FloatOverflow OperationCost :=
  (percentage t.gas total).map fun share =>
    { name := operationName t.opcode, opcode := t.opcode, gas := t.gas, share
      count := t.count, category := (OperationCategory.ofOpcode t.opcode).name }

/-- The profile of a stream. -/
def profile (pricing : Pricing) (table : CostTable) (stream : List Text) :
    Except FloatOverflow Profile := do
  let ts := tallies table stream
  let total := totalGas ts
  let operations ← ts.mapM (·.operation total)
  let cost ← pricing.cost total
  let suggestions ← suggest operations total
  return { total, operations, cost, suggestions }

/-- The profile of an artifact of this size. -/
def profileOfSize (pricing : Pricing) (size : Int) : Except FloatOverflow Profile :=
  profile pricing standardCosts (synthesize size)

end ContractBuild.Gas
