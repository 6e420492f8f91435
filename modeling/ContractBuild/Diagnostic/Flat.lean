import ContractBuild.Diagnostic.Basic
import ContractBuild.Text.Blank
import ContractBuild.Text.Line

/-!
# Flat reading

A reduced reading of toolchain output: every line that mentions an error (or a warning) in
the form of a header is one diagnostic, and its message is the line.
-/

set_option autoImplicit false

namespace ContractBuild

/-- Whether a line holds the word with a colon or an opening bracket behind it. -/
def mentions (word line : Text) : Bool :=
  Text.contains (word ++ [':']) line || Text.contains (word ++ ['[']) line

/-- The lines that mention a severity, as diagnostics of that severity. -/
def Diagnostic.parseFlat (severity : Severity) (output : Text) : List Diagnostic :=
  ((Text.lines output).filter (mentions severity.name)).map fun line =>
    { severity, message := Text.strip line }

end ContractBuild
