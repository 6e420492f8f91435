import ContractBuild.Text.Quoted

/-!
# Errors of the operating system

What the operating system refuses, with its number, its wording and the name of the file or
program concerned, and the refusals that file operations can meet.
-/

set_option autoImplicit false

namespace ContractBuild

/-- An error of the operating system. One without a number is only a text. -/
structure OsError where
  number : Option Int := none
  text : Text
  name : Option Text := none
  deriving DecidableEq, Repr

/-- The wording of an error: its number, its text, and the name in quotation marks. -/
def OsError.message (e : OsError) : Text :=
  match e.number with
  | none => e.text
  | some n =>
    let about : Text := match e.name with
      | some name => ':' :: ' ' :: Text.quoted name
      | none => []
    "[Errno " ++ Text.ofInt n ++ "] " ++ e.text ++ about

theorem OsError.message_of_isUnescaped {n : Int} {text name : Text}
    (h : ∀ c ∈ name, Text.isUnescaped c = true) :
    (OsError.mk (some n) text (some name)).message =
      "[Errno " ++ Text.ofInt n ++ "] " ++ text ++ (':' :: ' ' :: ('\'' :: name ++ ['\''])) := by
  simp only [OsError.message, Text.quoted_of_isUnescaped h]

/-- Why an operation on a file is refused. -/
inductive FileFault
  | missing
  | exists
  | notDirectory
  | isDirectory
  | nameTooLong
  | tooManyLinks
  deriving DecidableEq, Repr

namespace FileFault

/-- The number of a refusal. -/
def number : FileFault → Int
  | missing => 2
  | .exists => 17
  | notDirectory => 20
  | isDirectory => 21
  | nameTooLong => 36
  | tooManyLinks => 40

/-- The wording of a refusal. -/
def text : FileFault → Text
  | missing => "No such file or directory"
  | .exists => "File exists"
  | notDirectory => "Not a directory"
  | isDirectory => "Is a directory"
  | nameTooLong => "File name too long"
  | tooManyLinks => "Too many levels of symbolic links"

/-- The error for a refusal of an operation on `name`. -/
def error (fault : FileFault) (name : Text) : OsError :=
  ⟨some fault.number, fault.text, some name⟩

end FileFault

example : (FileFault.missing.error ['a']).message =
    "[Errno 2] No such file or directory: 'a'" := by decide +kernel

end ContractBuild
