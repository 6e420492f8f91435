import ContractBuild.Diagnostic.Basic
import ContractBuild.Text.Numeral

/-!
# Showing diagnostics

Diagnostics in the layout of toolchain output: header, arrow, snippet and help line, with an
empty line between two diagnostics. Parts that are absent or empty leave no line.
-/

set_option autoImplicit false

namespace ContractBuild.Diagnostic

/-- The text of an optional part, unless it is empty. -/
def present : Option Text → Option Text
  | some [] => none
  | part => part

/-- The header line. -/
def headerLine (d : Diagnostic) : Text :=
  let code : Text := match present d.code with
    | some code => '[' :: code ++ [']']
    | none => []
  d.severity.name ++ code ++ ": " ++ d.message

/-- The arrow line of a location. -/
def arrowLine (l : Location) : Text :=
  " --> " ++ l.file ++ ":" ++ Text.ofInt l.line ++ ":" ++ Text.ofInt l.column

/-- The lines of one diagnostic; a snippet counts as one of them, whatever it holds. -/
def renderLines (d : Diagnostic) : List Text :=
  [d.headerLine] ++ (d.location.map arrowLine).toList ++ (present d.snippet).toList ++
    ((present d.suggestion).map fun s : Text => ("  help: " : Text) ++ s).toList

/-- The text of several diagnostics. -/
def render (ds : List Diagnostic) : Text :=
  Text.join "\n\n" (ds.map fun d => Text.join ['\n'] d.renderLines)

end ContractBuild.Diagnostic
