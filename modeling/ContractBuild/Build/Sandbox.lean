import ContractBuild.Build.Result
import ContractBuild.Diagnostic.Flat
import ContractBuild.Host.Basic
import ContractBuild.Settings.Basic

/-!
# The remote sandbox

Checking a contract without a toolchain: the source is posted to a service that compiles
programs. What it answers tells only whether the source compiles, so a success carries a
placeholder instead of an artifact.
-/

set_option autoImplicit false

namespace ContractBuild.Sandbox

/-! ## Requests -/

/-- A source that holds one of these can be run as it is. -/
def entryMarks : List Text := ["#[entrypoint]", "fn main()"]

/-- The source with an entry point of its own or, if it has none, with one added. -/
def wrap (source : Text) : Text :=
  if entryMarks.any fun mark => Text.contains mark source then source
  else
    "\n// Remote compilation check\n" ++ source ++
      "\n\nfn main() \x7b\n    println!(\"Compilation successful\");\n\x7d\n"

/-- The request for a source. -/
def request (s : Settings) (source : Text) : Request where
  url := s.sandboxUrl
  timeout := s.sandboxTimeout
  body := .object
    [("channel", .text s.sandboxChannel), ("mode", .text s.sandboxMode),
     ("edition", .text s.sandboxEdition), ("crateType", .text "bin"), ("tests", .bool false),
     ("code", .text (wrap source)), ("backtrace", .bool false)]

/-- What comes of the next request: a failed exchange, if nothing is told. -/
def nextReply : Run Reply :=
  modifyGet fun h => match h.replies with
    | [] => (.failed "no response", h)
    | r :: rest => (r, { h with replies := rest })

/-- Posts a request. -/
def post (r : Request) : Run Reply := do
  Run.note (.posted r)
  nextReply

/-! ## Answers -/

/-- What a reply amounts to. -/
inductive Outcome
  | overrun
  | failed (reason : Text)
  | refused (reason : Text)
  /-- The fields of the body of an answer. -/
  | body (fields : List (Text × Json))

/-- What a reply amounts to: only an object with the status of success is an answer. -/
def Outcome.ofReply : Reply → Outcome
  | .overrun => overrun
  | .failed reason => failed reason
  | .refused reason => refused reason
  | .answered status reason content =>
    if status ≠ 200 then
      failed ("Playground API error: " ++ Text.ofInt status ++ ' ' :: reason.getD "None")
    else match content with
      | .error reason => failed reason
      | .ok (.object fields) => body fields
      | .ok v => failed ("Playground API returned unexpected body: " ++ v.typeName)

/-- The output in a field of an answer; an absent or empty value is no output. -/
def output (fields : List (Text × Json)) (name : Text) : Json :=
  match Json.field? name fields with
  | some v => if v.isPresent then v else .text []
  | none => .text []

/-- What stands for the artifact of an empty source without output. -/
def bareMark : Text := "compiled"

theorem bareMark_ne_nil : bareMark ≠ [] := by
  decide

/-- What stands for the artifact: the output of the program, or the start of the source. -/
def placeholder (source : Text) : Json → Except OutputFault { t : Text // t ≠ [] }
  | .text (c :: t) => .ok ⟨c :: t, List.cons_ne_nil _ _⟩
  | .text [] =>
    match source.take 100 with
    | [] => .ok ⟨bareMark, bareMark_ne_nil⟩
    | c :: t => .ok ⟨c :: t, List.cons_ne_nil _ _⟩
  | _ => .error .notText

/-- A success without an artifact. -/
def placeholderSuccess (text : { t : Text // t ≠ [] }) (warnings : List Diagnostic) :
    BuildSuccess :=
  { artifact := Text.encode text.1, warnings, placeholder := true
    artifact_ne_nil := Text.encode_ne_nil text.2 }

/-- The failure of a source that does not compile; there is always an error. -/
def compileFailure (errors : List Diagnostic) (stderr : Text) : BuildFailure :=
  match errors with
  | e :: errors =>
    ⟨e :: errors, Diagnostic.parseFlat .warning stderr, .diagnostics, List.cons_ne_nil _ _⟩
  | [] =>
    .ofError (.error "Compilation failed") .diagnostics (Diagnostic.parseFlat .warning stderr)

/-- The result for what the service reports. A source is taken to compile if the error stream
does not mention an error at all. -/
def judge (source : Text) (stdout : Json) : Json → Run BuildResult
  | .text stderr =>
    if Text.contains "error" stderr then do
      let failure := compileFailure (Diagnostic.parseFlat .error stderr) stderr
      Run.log .info ("Remote compilation reported " ++ Text.ofNat failure.errors.length ++
        " error(s)")
      return .failure failure
    else do
      let text ← Run.answer .output (placeholder source stdout)
      return .success (placeholderSuccess text (Diagnostic.parseFlat .warning stderr))
  | .list _ => throw (.output .notText)
  | .object _ => throw (.output .notText)
  | _ => throw (.output .notSearchable)

/-! ## Compiling -/

/-- Compiles a source remotely. -/
def compile (s : Settings) (source : Text) : Run BuildResult := do
  match Outcome.ofReply (← post (request s source)) with
  | .overrun => do
    Run.log .error ("Playground request timed out after " ++ s.sandboxTimeout.text ++ " seconds")
    return .failure (.ofError (.error ("Remote compilation timed out after " ++
      s.sandboxTimeout.briefText ++ " seconds")) .timeout)
  | .failed reason => do
    Run.log .error ("Playground request failed: " ++ reason)
    return .failure (.ofError (.error ("Remote compilation failed: " ++ reason)) .environment)
  | .refused reason => throw (.os { text := reason })
  | .body fields => do
    let stdout := output fields "stdout"
    let stderr := output fields "stderr"
    Run.note (.reported stdout stderr)
    judge source stdout stderr

/-- Checks the syntax of a source remotely. -/
def checkSyntax (s : Settings) (source : Text) : Run SyntaxCheck := do
  match ← compile s source with
  | .success _ => return ⟨true, []⟩
  | .failure f => return ⟨false, f.errors⟩

/-- What the service has last reported, on both streams; before any report, two empty
texts. -/
def lastReport (trace : List Event) : Json × Json :=
  trace.foldl (fun last e => match e with
    | .reported stdout stderr => (stdout, stderr)
    | _ => last) (.text [], .text [])

end ContractBuild.Sandbox
