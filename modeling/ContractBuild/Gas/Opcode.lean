import ContractBuild.Text.LetterCase
import ContractBuild.Text.Word

/-!
# Opcodes

What an operation costs, what it is called and which category it belongs to. The tables are
approximations for operations of a contract; every other opcode has a default cost and a name
made from its own words.
-/

set_option autoImplicit false

namespace ContractBuild.Gas

/-! ## Costs -/

/-- What operations cost, as pairs of opcode and gas. -/
abbrev CostTable := List (Text × Int)

/-- The approximate cost of the operations of a contract. -/
def standardCosts : CostTable :=
  [ -- storage
   ("storage.load", 2100), ("storage.store", 20000), ("storage.set", 20000),
   -- memory
   ("memory.grow", 512), ("memory.size", 2), ("memory.copy", 3), ("memory.fill", 3),
   -- computation
   ("i32.add", 3), ("i32.sub", 3), ("i32.mul", 5), ("i32.div", 10),
   ("i64.add", 3), ("i64.sub", 3), ("i64.mul", 5), ("i64.div", 10),
   -- comparison
   ("i32.eq", 3), ("i32.ne", 3), ("i32.lt", 3), ("i32.gt", 3),
   -- control flow
   ("call", 100), ("call_indirect", 150), ("br", 10), ("br_if", 10), ("return", 0),
   -- events
   ("event.emit", 375), ("log0", 375), ("log1", 750), ("log2", 1125)]

/-- The cost of an operation that no table lists. -/
def defaultCost : Int := 2

/-- The cost of an operation. -/
def CostTable.cost (table : CostTable) (opcode : Text) : Int :=
  (table.lookup opcode).getD defaultCost

/-- The sum of several amounts of gas. -/
def gasSum (amounts : List Int) : Int :=
  amounts.foldr (fun a b => a + b) 0

/-! ## Categories -/

/-- What kind of work an operation does. -/
inductive OperationCategory
  | storage
  | memory
  | call
  | event
  | computation
  deriving DecidableEq, Repr

namespace OperationCategory

/-- The name of a category. -/
def name : OperationCategory → Text
  | storage => "storage"
  | memory => "memory"
  | call => "call"
  | event => "event"
  | computation => "computation"

/-- The words that show a category, in the order in which they are tried. -/
def marks : List (Text × OperationCategory) :=
  [("storage", storage), ("store", storage), ("load", storage), ("memory", memory),
   ("grow", memory), ("call", call), ("log", event), ("event", event)]

/-- The category of an opcode. -/
def ofOpcode (opcode : Text) : OperationCategory :=
  match marks.find? fun m => Text.contains m.1 opcode with
  | some m => m.2
  | none => computation

end OperationCategory

/-! ## Names -/

/-- The operations that have a name of their own. -/
def properNames : List (Text × Text) :=
  [("storage.load", "Storage Read"), ("storage.store", "Storage Write"),
   ("storage.set", "Storage Update"), ("memory.grow", "Memory Allocation"),
   ("memory.copy", "Memory Copy"), ("memory.fill", "Memory Fill"),
   ("call", "Function Call"), ("call_indirect", "Dynamic Call"),
   ("i32.add", "Integer Addition"), ("i32.sub", "Integer Subtraction"),
   ("i32.mul", "Integer Multiplication"), ("i32.div", "Integer Division"),
   ("i32.eq", "Integer Comparison"), ("i64.add", "Long Addition"),
   ("i64.mul", "Long Multiplication"), ("i64.div", "Long Division"),
   ("log0", "Event Emission"), ("log1", "Indexed Event"), ("log2", "Multi-Indexed Event")]

/-- The text with a capital at the start of each word. -/
def capitalizeWords (t : Text) : Text :=
  ((' ' :: t).zip t).flatMap fun p =>
    if Text.isWord p.2 && !Text.isWord p.1 then Text.capital p.2 else [p.2]

/-- The name of an operation for readers. -/
def operationName (opcode : Text) : Text :=
  (properNames.lookup opcode).getD (capitalizeWords (Text.replaceChar '_' ' ' opcode))

end ContractBuild.Gas
