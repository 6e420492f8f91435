import ContractBuild.Diagnostic.Basic
import ContractBuild.Text.Digit
import ContractBuild.Text.LetterCase
import ContractBuild.Text.Numeral

/-!
# Explaining diagnostics

A sentence in plain words for the common error codes and messages, a coarse category, and
the conversion between positions of the toolchain and of an editor.
-/

set_option autoImplicit false

namespace ContractBuild

open Text (contains isDigit TooManyDigits)

/-! ## Plain words -/

/-- The error codes that have a sentence of their own. -/
def codeSentences : List (Text × Text) :=
  [("E0425", "Variable or function not found. Check spelling and imports."),
   ("E0277", "Type does not implement required trait. Check trait bounds."),
   ("E0308", "Type mismatch. Check that types match in assignment or function call."),
   ("E0433", "Module or crate not found. Check Cargo.toml dependencies."),
   ("E0599", "Method not found. Check that type implements the method."),
   ("E0382", "Use of moved value. Value was moved and can no longer be used."),
   ("E0502", "Cannot borrow as mutable while also borrowed as immutable."),
   ("E0597", "Borrowed value does not live long enough.")]

/-- The phrases of a message that have a sentence, in the order in which they are tried. -/
def phraseSentences : List (Text × Text) :=
  [("cannot find", "Item not found. Check imports and spelling."),
   ("mismatched types", "Type mismatch. Ensure types are compatible."),
   ("borrow", "Borrowing error. Check ownership and lifetimes."),
   ("trait", "Trait requirement not satisfied. Implement required trait.")]

/-- The first error code that stands in a text: a capital E and four digits. -/
def mentionedCode? : Text → Option Text
  | [] => none
  | c :: rest =>
    if c = 'E' ∧ 4 ≤ (rest.take 4).length ∧ (rest.take 4).all isDigit then
      some (c :: rest.take 4)
    else mentionedCode? rest

namespace Diagnostic

/-- The code that a diagnostic carries, or else the first one that its message mentions. -/
def effectiveCode? (d : Diagnostic) : Option Text :=
  match d.code with
  | some (c :: rest) => some (c :: rest)
  | _ => mentionedCode? d.message

/-- The diagnostic in plain words: by its code, else by its message, else the message. -/
def explain (d : Diagnostic) : Text :=
  match d.effectiveCode?.bind fun code => codeSentences.lookup code with
  | some sentence => sentence
  | none =>
    match phraseSentences.find? fun p => contains p.1 d.message with
    | some p => p.2
    | none => d.message

end Diagnostic

/-! ## Categories -/

/-- The coarse kinds of diagnostics. -/
inductive Category
  | nameResolution
  | typeError
  | borrowChecker
  | traitError
  | sizeLimit
  | gasLimit
  | storageError
  | other
  deriving DecidableEq, Repr

namespace Category

/-- The name of a category. -/
def name : Category → Text
  | nameResolution => "name-resolution"
  | typeError => "type-error"
  | borrowChecker => "borrow-checker"
  | traitError => "trait-error"
  | sizeLimit => "size-limit"
  | gasLimit => "gas-limit"
  | storageError => "storage-error"
  | other => "other"

/-- The category of the codes with a number, for the hundreds that have one. -/
def ofNumber? (n : Nat) : Option Category :=
  match n / 100 with
  | 4 => some nameResolution
  | 2 => some typeError
  | 5 => some borrowChecker
  | 7 => some traitError
  | _ => none

/-- The category that the words of a message show; case is of no account. -/
def ofMessage (message : Text) : Category :=
  let m := Text.lower message
  if contains "contract exceeds" m || contains "exceeds maximum" m then sizeLimit
  else if contains "gas limit" m then gasLimit
  else if contains "storage" m then storageError
  else other

end Category

/-- The number of a code that is a capital E and digits. -/
def codeNumber? : Option Text → Except TooManyDigits (Option Nat)
  | some ('E' :: d :: digits) =>
    if (d :: digits).all isDigit then (Text.number (d :: digits)).map some else .ok none
  | _ => .ok none

/-- The category of a diagnostic: by the number of its code, else by its message. -/
def Diagnostic.category (d : Diagnostic) : Except TooManyDigits Category :=
  (codeNumber? d.code).map fun n =>
    (n.bind Category.ofNumber?).getD (Category.ofMessage d.message)

/-! ## Positions -/

/-- A line and a column. -/
structure TextPosition where
  line : Int
  column : Int
  deriving DecidableEq, Repr

namespace TextPosition

/-- An editor counts columns from zero, a toolchain from one; both count lines from one. -/
def toToolchain (p : TextPosition) : TextPosition :=
  ⟨p.line, p.column + 1⟩

/-- The other way round. -/
def toEditor (p : TextPosition) : TextPosition :=
  ⟨p.line, p.column - 1⟩

theorem toEditor_toToolchain (p : TextPosition) : p.toToolchain.toEditor = p := by
  simp [toToolchain, toEditor]

theorem toToolchain_toEditor (p : TextPosition) : p.toEditor.toToolchain = p := by
  simp [toToolchain, toEditor]

end TextPosition

end ContractBuild
