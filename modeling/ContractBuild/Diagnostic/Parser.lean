import ContractBuild.Diagnostic.Line
import ContractBuild.Text.Line
import ContractBuild.Text.Numeral

/-!
# Reading toolchain output

A report starts at a header line and lasts to the next one. Inside it the first arrow gives
the location, the last help line the suggestion, and the gutter lines, as they are, the
snippet; all other lines are passed over, and so are the lines before the first header.

The reader goes through the lines once, with the report that is open and those finished.
-/

set_option autoImplicit false

namespace ContractBuild

open Text (strip number TooManyDigits)

/-- The report that is being read; its gutter lines stand newest first. -/
structure Draft where
  header : Header
  location : Option Location := none
  suggestion : Option Text := none
  gutter : List Text := []
  deriving DecidableEq, Repr

namespace Draft

/-- The diagnostic of a report that is complete. -/
def finish (d : Draft) : Diagnostic where
  severity := d.header.severity
  code := d.header.code
  message := strip d.header.message
  location := d.location
  suggestion := d.suggestion
  snippet := if d.gutter.isEmpty then none else some (Text.join ['\n'] d.gutter.reverse)

/-- The location an arrow points to. -/
def locate (a : Arrow) : Except TooManyDigits Location := do
  let line ← number a.line
  let column ← number a.column
  return ⟨strip a.file, line, column⟩

/-- Takes a line that is no header into the report. -/
def add (d : Draft) (line : Text) : Except TooManyDigits Draft :=
  match Arrow.read? line with
  | some arrow =>
    match d.location with
    | some _ => .ok d
    | none => (locate arrow).map fun l => { d with location := some l }
  | none =>
    match helpText? line with
    | some text => .ok { d with suggestion := some (strip text) }
    | none => .ok (if isGutter line then { d with gutter := line :: d.gutter } else d)

end Draft

/-- How far the output is read: the open report, if there is one, and the finished ones,
newest first. -/
structure Reading where
  draft : Option Draft := none
  finished : List Diagnostic := []
  deriving DecidableEq, Repr

namespace Reading

/-- Finishes the open report. -/
def close (r : Reading) : Reading :=
  match r.draft with
  | some d => ⟨none, d.finish :: r.finished⟩
  | none => r

/-- Takes one line in. -/
def step (r : Reading) (line : Text) : Except TooManyDigits Reading :=
  match Header.read? line with
  | some header => .ok { r.close with draft := some { header } }
  | none =>
    match r.draft with
    | some d => (d.add line).map fun d => { r with draft := some d }
    | none => .ok r

/-- The diagnostics read, in the order of their headers. -/
def result (r : Reading) : List Diagnostic :=
  r.close.finished.reverse

end Reading

/-- The diagnostics in the output of a toolchain. The output is refused if a location in it
has a number too long to be read. -/
def Diagnostic.parse (output : Text) : Except TooManyDigits (List Diagnostic) :=
  ((Text.lines output).foldlM Reading.step {}).map Reading.result

end ContractBuild
