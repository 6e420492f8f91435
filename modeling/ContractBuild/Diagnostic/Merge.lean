import ContractBuild.Diagnostic.Basic

/-!
# Merging diagnostics

Diagnostics of several stages in one list without repetitions. Two diagnostics repeat each
other if severity, code, message and location agree; the first one stays, with the snippet
and the suggestion it has.
-/

set_option autoImplicit false

namespace ContractBuild.Diagnostic

/-- What two diagnostics share when one repeats the other. -/
structure Key where
  severity : Severity
  code : Option Text
  message : Text
  location : Option Location
  deriving DecidableEq, Repr

/-- The key of a diagnostic. -/
def key (d : Diagnostic) : Key :=
  ⟨d.severity, d.code, d.message, d.location⟩

/-- The list with one more diagnostic behind it, unless that repeats one of the list. -/
def mergeOne (into : List Diagnostic) (d : Diagnostic) : List Diagnostic :=
  if into.any (·.key = d.key) then into else into ++ [d]

/-- The list with those of `new` behind it that repeat nothing before them. -/
def merge (into new : List Diagnostic) : List Diagnostic :=
  new.foldl mergeOne into

end ContractBuild.Diagnostic
