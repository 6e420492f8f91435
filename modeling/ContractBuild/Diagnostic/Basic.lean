import ContractBuild.Text.Quoted

/-!
# Diagnostics

What a toolchain says about a source: an error, a warning, a note or a help text, with the
place it is about and the lines of source it quotes.
-/

set_option autoImplicit false

namespace ContractBuild

/-- How grave a diagnostic is. -/
inductive Severity
  | error
  | warning
  | note
  | help
  deriving DecidableEq, Repr

namespace Severity

/-- All severities, in the order in which a header is tried. -/
def all : List Severity := [error, warning, note, help]

/-- The word for a severity. -/
def name : Severity → Text
  | error => "error"
  | warning => "warning"
  | note => "note"
  | help => "help"

/-- The severity that a word names. -/
def ofName? (word : Text) : Option Severity :=
  all.find? (·.name = word)

theorem ofName?_name (s : Severity) : ofName? s.name = some s := by
  cases s <;> decide

end Severity

/-- A place in a source; lines and columns count from one. -/
structure Location where
  file : Text
  line : Int
  column : Int
  deriving DecidableEq, Repr

/-- One thing that a toolchain reports. -/
structure Diagnostic where
  severity : Severity
  message : Text
  code : Option Text := none
  location : Option Location := none
  snippet : Option Text := none
  suggestion : Option Text := none
  deriving DecidableEq, Repr

namespace Diagnostic

/-- Whether the diagnostic is an error. -/
def isError (d : Diagnostic) : Bool :=
  d.severity = .error

/-- An error with nothing but a message. -/
def error (message : Text) : Diagnostic :=
  { severity := .error, message }

/-- A warning with nothing but a message. -/
def warning (message : Text) : Diagnostic :=
  { severity := .warning, message }

end Diagnostic

end ContractBuild
