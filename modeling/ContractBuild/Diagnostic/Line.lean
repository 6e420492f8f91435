import ContractBuild.Diagnostic.Basic
import ContractBuild.Text.Blank
import ContractBuild.Text.Digit

/-!
# Lines of toolchain output

The four kinds of line that a report is made of:

- a header `severity[code]: message`, the code being optional;
- an arrow `--> file:line:column`, indented or not;
- a help line `help: text`, indented or not and perhaps behind an equals sign;
- a gutter line: a line number or none, and a bar, before a quoted line of source.

Each recogniser takes one line, without its separator.
-/

set_option autoImplicit false

namespace ContractBuild

open Text (after? isBlank isDigit)

/-! ## Headers -/

/-- The parts of a header line. -/
structure Header where
  severity : Severity
  code : Option Text
  message : Text
  deriving DecidableEq, Repr

namespace Header

/-- The severity that a line begins with, and the rest of the line. -/
def severity? (line : Text) : Option (Severity × Text) :=
  Severity.all.findSome? fun s => (after? s.name line).map fun rest => (s, rest)

/-- A code in brackets in front of `t`, and what follows it. -/
def bracketed? : Text → Option (Text × Text)
  | '[' :: t =>
    match t.span (· ≠ ']') with
    | (code, _ :: rest) => if code.isEmpty then none else some (code, rest)
    | _ => none
  | _ => none

/-- A colon, a blank and a message that make up all of `t`. -/
def message? (t : Text) : Option Text :=
  match after? ": " t with
  | some (c :: rest) => some (c :: rest)
  | _ => none

/-- The header that a line is, if it is one. -/
def read? (line : Text) : Option Header := do
  let (severity, rest) ← severity? line
  match bracketed? rest with
  | some (code, rest) => (message? rest).map fun message => ⟨severity, some code, message⟩
  | none => (message? rest).map fun message => ⟨severity, none, message⟩

end Header

/-! ## Arrows -/

/-- The parts of an arrow line; the numbers are still runs of digits. -/
structure Arrow where
  file : Text
  line : Text
  column : Text
  deriving DecidableEq, Repr

namespace Arrow

/-- A run of digits at the end of a text, and what stands before the colon in front of it;
all texts are reversed. -/
def numberBack? (reversed : Text) : Option (Text × Text) :=
  match reversed.span isDigit with
  | (d :: digits, ':' :: rest) => some (d :: digits, rest)
  | _ => none

/-- The arrow that a line is, if it is one. The file reaches to the second colon from the
end, so it may hold colons itself. -/
def read? (line : Text) : Option Arrow := do
  let rest ← after? "--> " (line.dropWhile isBlank)
  let (column, back) ← numberBack? (rest.reverse.dropWhile isBlank)
  let (number, back) ← numberBack? back
  if back.isEmpty then none
  else some ⟨back.reverse, number.reverse, column.reverse⟩

end Arrow

/-! ## Help lines and gutters -/

/-- The text of a help line, if the line is one. -/
def helpText? (line : Text) : Option Text :=
  let t := line.dropWhile isBlank
  let t := (after? "= " t).getD t
  match after? "help: " t with
  | some (c :: rest) => some (c :: rest)
  | _ => none

/-- Whether a line is a gutter line. -/
def isGutter (line : Text) : Bool :=
  (((line.dropWhile isBlank).dropWhile isDigit).dropWhile isBlank).head? = some '|'

/-! ## Laws -/

theorem Header.severity?_eq_some_iff {line rest : Text} {s : Severity} :
    Header.severity? line = some (s, rest) ↔ line = s.name ++ rest := by
  constructor
  · intro h
    unfold Header.severity? at h
    obtain ⟨_, _, _, _, h, _⟩ := List.findSome?_eq_some_iff.1 h
    obtain ⟨u, hu, he⟩ := Option.map_eq_some_iff.1 h
    cases he
    exact Text.eq_append_of_after? hu
  · rintro rfl
    cases s <;> rfl

end ContractBuild
