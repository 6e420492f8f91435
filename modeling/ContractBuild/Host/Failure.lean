import ContractBuild.Host.Files
import ContractBuild.Number.Decimal
import ContractBuild.Number.Integer
import ContractBuild.Text.Template

/-!
# Failures

Why work on the host stops without a result. Each cause is a constructor, and the wording is
in one function.
-/

set_option autoImplicit false

namespace ContractBuild

open Text (TooManyDigits)

/-- The wording of a run of digits that is too long. -/
def Text.TooManyDigits.message (e : TooManyDigits) : Text :=
  "Exceeds the limit (" ++ Text.ofNat Text.digitLimit ++
    " digits) for integer string conversion: value has " ++ Text.ofNat e.count ++
    " digits; use sys.set_int_max_str_digits() to increase the limit"

/-- A stage that used up its time. -/
structure Overrun where
  stage : Text
  budget : Binary64
  deriving DecidableEq, Repr

/-- The wording of an overrun. -/
def Overrun.message (e : Overrun) : Text :=
  '\'' :: e.stage ++ "' timed out after " ++ e.budget.briefText ++ " seconds"

/-- What is wrong with a source file. -/
inductive SourceFault
  | missing (path : Path)
  | extension (path : Path)
  | empty (path : Path)
  deriving DecidableEq, Repr

/-- The wording of a fault of a source file. -/
def SourceFault.message : SourceFault → Text
  | missing path => "Source file not found: " ++ path.text
  | .extension path => "File must have .rs extension: " ++ path.text
  | empty path => "Source file is empty: " ++ path.text

/-- What is wrong with the output that a remote service reports. -/
inductive OutputFault
  /-- It is a value that cannot be searched. -/
  | notSearchable
  /-- It is a value that is no text. -/
  | notText
  deriving DecidableEq, Repr

/-- A fault of one setting: the key, the kind of fault and its wording. -/
structure SettingFault where
  key : Text
  kind : Text
  message : Text
  deriving DecidableEq, Repr

/-- The wording of several faults of settings. -/
def SettingFault.messageOfAll (faults : List SettingFault) : Text :=
  let count := Text.ofNat faults.length ++
    (if faults.length = 1 then " validation error" else " validation errors")
  Text.join ['\n'] ((count ++ " for Settings") ::
    faults.flatMap fun f => [f.key, "  " ++ f.message ++ " [type=" ++ f.kind ++ "]"])

/-- Why work stops. -/
inductive Failure
  | os (e : OsError)
  | file (e : FileError)
  /-- A build directory cannot be prepared. -/
  | setup (root : Path) (cause : FileError)
  | overrun (e : Overrun)
  | cancelled
  | interrupted
  | digits (e : TooManyDigits)
  | float (e : FloatOverflow)
  | template (e : TemplateFault)
  | encoding (e : Text.InvalidUtf8)
  | source (e : SourceFault)
  | output (e : OutputFault)
  | settings (faults : List SettingFault)
  /-- No workspace is open under a label. -/
  | unknownLabel (label : Text)
  deriving DecidableEq, Repr

/-- The wording of a failure. -/
def Failure.message : Failure → Text
  | os e => e.message
  | file e => e.message
  | setup root cause =>
    "Failed to prepare build directory " ++ root.text ++ ": " ++ cause.message
  | overrun e => e.message
  | cancelled => []
  | interrupted => []
  | digits e => e.message
  | float e => e.message
  | template e => e.message
  | encoding e => e.message
  | source e => e.message
  | output _ => []
  | settings faults => SettingFault.messageOfAll faults
  | unknownLabel label => Text.quoted label

namespace Failure

/-- Whether the failure is an error of the operating system. A text that cannot be a path is
none. -/
def isSystemError : Failure → Bool
  | os _ => true
  | file (.refused _ _) => true
  | source (.missing _) => true
  | overrun _ => true
  | _ => false

/-- Whether the failure is a value that cannot be used. -/
def isValueError : Failure → Bool
  | file .embeddedNull => true
  | digits _ => true
  | template (.unknownField _) => false
  | template (.noPosition _) => false
  | template .indexOutOfRange => false
  | template .notAnIndex => false
  | template .noAttribute => false
  | template _ => true
  | encoding _ => true
  | source (.extension _) => true
  | source (.empty _) => true
  | settings _ => true
  | _ => false

end Failure

end ContractBuild
