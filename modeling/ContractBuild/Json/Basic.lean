import ContractBuild.Number.Binary64
import ContractBuild.Text.Basic

/-!
# JSON values

The values that a report is made of and that a remote service answers with. Whole numbers
have no bound, and the fields of an object keep their order.
-/

set_option autoImplicit false

namespace ContractBuild

/-- A JSON value. -/
inductive Json
  | null
  | bool (b : Bool)
  | int (n : Int)
  | real (x : Binary64)
  | text (t : Text)
  | list (items : List Json)
  | object (fields : List (Text × Json))
  deriving Inhabited

namespace Json

/-- A text that may be absent. -/
def ofText? : Option Text → Json
  | some t => text t
  | none => null

/-- The word for the type of a value. -/
def typeName : Json → Text
  | null => "NoneType"
  | bool _ => "bool"
  | int _ => "int"
  | real _ => "float"
  | text _ => "str"
  | list _ => "list"
  | object _ => "dict"

/-- Whether a value counts as there: it is neither null nor false nor zero nor empty. -/
def isPresent : Json → Bool
  | null => false
  | bool b => b
  | int n => n != 0
  | real x => !x.isZero
  | text t => !t.isEmpty
  | list items => !items.isEmpty
  | object fields => !fields.isEmpty

/-- The last field of an object with this name. -/
def field? (name : Text) (fields : List (Text × Json)) : Option Json :=
  fields.reverse.lookup name

end Json

end ContractBuild
