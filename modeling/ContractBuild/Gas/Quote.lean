import ContractBuild.Number.Decimal
import ContractBuild.Number.Integer

/-!
# Deployment quotes

A price for deploying a contract, from its source alone: a base price, so much for each
character, and so much for each occurrence of a keyword that opens a construct.
-/

set_option autoImplicit false

namespace ContractBuild.Gas

/-! ## Constructs -/

/-- The keywords that open a construct. -/
def constructKeywords : List Text := ["fn", "struct", "impl", "let", "match"]

/-- The length of the keyword that a text begins with. -/
def keywordLength? (t : Text) : Option Nat :=
  (constructKeywords.find? fun k => (Text.after? k t).isSome).map List.length

/-- Scans one character; `state` holds the number of characters that still belong to the
last keyword, and the count of keywords. -/
def countFrom : Text → Nat → Nat → Nat
  | [], _, count => count
  | _ :: rest, skip + 1, count => countFrom rest skip count
  | c :: rest, 0, count =>
    match keywordLength? (c :: rest) with
    | some n => countFrom rest (n - 1) (count + 1)
    | none => countFrom rest 0 count

/-- The number of keywords in a source, from left to right and without overlaps. -/
def constructCount (source : Text) : Nat :=
  countFrom source 0 0

/-! ## Quotes -/

/-- The gas of an empty contract. -/
def baseDeploymentGas : Nat := 21000

/-- The gas of a character. -/
def gasPerCharacter : Nat := 10

/-- The gas of a construct. -/
def gasPerConstruct : Nat := 500

/-- The gas that deployment takes, beside the gas of a contract of the same source that is
not compiled to this target, and the percentage saved. -/
structure DeploymentQuote where
  gas : Int
  equivalent : Int
  savings : Int
  deriving DecidableEq, Repr

/-- The gas of deploying a source on the machine that it is compared with. -/
def equivalentGas (source : Text) : Nat :=
  baseDeploymentGas + source.length * gasPerCharacter + constructCount source * gasPerConstruct

/-- The whole part of the product with the number nearest to a hundredth. -/
def hundredth (gas : Int) : Except FloatOverflow Int :=
  (Binary64.intMul gas (Binary64.literal 1 100)).bind fun x =>
    match x.truncate? with
    | some n => .ok n
    | none => .error .integer

/-- The percentage that a deployment saves. -/
def deploymentSavings : Int := 99

/-- The quote for a source. -/
def quote (source : Text) : Except FloatOverflow DeploymentQuote :=
  (hundredth (equivalentGas source)).map fun gas =>
    { gas, equivalent := equivalentGas source, savings := deploymentSavings }

/-- The gas in thousand millions, with four places. -/
def DeploymentQuote.gweiText (q : DeploymentQuote) : Except FloatOverflow Text :=
  (Binary64.ofInt q.gas).map fun x => (x.divFinite 1000000000).fixedText 4

end ContractBuild.Gas
