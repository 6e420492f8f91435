import ContractBuild.Gas.Opcode

/-!
# Operation streams

The operations of an artifact are not decoded; a stream with the usual mix is made up from
the size of the artifact.
-/

set_option autoImplicit false

namespace ContractBuild.Gas

/-- Artifacts above this size are taken to emit an event. -/
def eventSizeThreshold : Nat := 500

/-- The opcodes of `cycle` in turn, `count` of them. -/
def cycled (cycle : List Text) (count : Nat) : List Text :=
  (List.range count).map fun i => cycle.getD (i % cycle.length) []

/-- The operations of an artifact of this size: a call of the constructor, then storage,
memory, computation and calls in proportion to the size, and an event for a large one. A
negative size counts as zero. -/
def synthesize (size : Int) : List Text :=
  let n := size.toNat
  let constructor : List Text := ["call"]
  let storage := cycled ["storage.load", "storage.store"] (n / 100)
  let memory := cycled ["memory.grow", "memory.copy", "memory.copy"] (n / 50)
  let computation := cycled ["i32.add", "i32.mul", "i32.eq", "i64.add"] (n / 20)
  let calls : List Text := List.replicate (n / 200) "call"
  let events : List Text := if eventSizeThreshold < n then ["log1"] else []
  constructor ++ storage ++ memory ++ computation ++ calls ++ events

end ContractBuild.Gas
