import ContractBuild.Build.Service
import ContractBuild.CommandLine.Arguments
import ContractBuild.Diagnostic.Printer
import ContractBuild.Json.Printer
import ContractBuild.Logging.Logger
import ContractBuild.Settings.Source

/-!
# The program

What a command line does on a host: the settings are loaded, the log is set up, the
instruction is carried out, and its output and exit code are returned. A refusal of the system
and a value that cannot be used are reported to the user; every other failure is passed on.
-/

set_option autoImplicit false

namespace ContractBuild.Program

/-- How the program ends: its exit code, and what it has printed. -/
structure Ending where
  exitCode : Nat
  output : Text
  deriving DecidableEq, Repr

/-- What an instruction comes to: whether it succeeded, and what it prints. -/
structure Answer where
  success : Bool
  output : Text
  deriving DecidableEq, Repr

/-! ## Files -/

/-- A text file, with its line breaks unified. -/
def readText (p : Path) : Run Text := do
  let content ← Run.ask (·.read p)
  let text ← Run.answer .encoding (Text.decode content)
  return Text.unifyNewlines text

/-- A source file. It has to exist, to have the right suffix and not to be blank. -/
def readSource (p : Path) : Run Text := do
  if !(← Run.ask (·.isThere p)) then throw (.source (.missing p))
  else if p.suffix ≠ (".rs" : Text) then throw (.source (.extension p))
  else do
    let text ← readText p
    if Text.isBlankText text then throw (.source (.empty p)) else return text

/-- The file of variables in the working directory. -/
def variablesPath : Path := Path.here.child ".env"

/-- What the file of variables holds; nothing, if it is missing. -/
def readVariables : Run Text := do
  if ← Run.ask (·.isFile variablesPath) then readText variablesPath else return []

/-- The settings from given values, the environment and the file of variables. -/
def loadSettings (values : List (Text × Json)) (environment : List (Text × Text))
    (defaults : Settings := {}) : Run Settings := do
  let file ← readVariables
  let sources : SettingSources := { values, environment, file }
  Run.answer .settings (sources.settings defaults)

/-! ## Instructions -/

/-- A line of output. -/
def printed (t : Text) : Text :=
  t ++ ['\n']

/-- A value as output. -/
def printedJson (v : Json) : Text :=
  printed v.print

/-- Compiles a file. -/
def compile (s : Settings) (file : Path) (name : Option Text) (fallback : Bool) :
    Run Answer := do
  let source ← readSource file
  let project := match name with
    | some (c :: rest) => c :: rest
    | _ => file.stem
  let request : CompileRequest := { source, project, useFallback := fallback }
  let result ← request.result s
  return ⟨result.succeeded, printedJson (← CompileRequest.report s result)⟩

/-- Checks the syntax of a file. -/
def check (s : Settings) (file : Path) : Run Answer := do
  let source ← readSource file
  let check ← Toolchain.checkSyntax s source
  let verdict : Text := if check.valid then "Syntax OK" else Diagnostic.render check.errors
  return ⟨check.valid, printed verdict⟩

/-- Reports whether the toolchain can be used. -/
def doctor (s : Settings) : Run Answer := do
  let version ← Toolchain.version s
  return ⟨version.isSome, printedJson
    (.object [("available", .bool version.isSome), ("version", Json.ofText? version)])⟩

/-- The gas profile of an artifact. -/
def estimate (s : Settings) (file : Path) : Run Answer := do
  let content ← Run.ask (·.read file)
  let profile ← Run.answer .float (Gas.profileOfSize s.pricing content.length)
  return ⟨true, printedJson profile.report⟩

/-- The quote for a file. -/
def quote (file : Path) : Run Answer := do
  let source ← readSource file
  let quote ← Run.answer .float (Gas.quote source)
  return ⟨true, printedJson (← Run.answer .float quote.report)⟩

/-- Carries out an instruction. -/
def perform (s : Settings) : Instruction → Run Answer
  | .compile file name fallback => compile s file name fallback
  | .check file => check s file
  | .doctor => doctor s
  | .estimate file => estimate s file
  | .quote file => quote file

/-! ## The whole program -/

/-- The end of the program for an answer or a failure. -/
def conclude : Except Failure Answer → Run Ending
  | .ok a => return ⟨if a.success then 0 else 1, a.output⟩
  | .error .interrupted => return ⟨1, "\nCancelled by user\n"⟩
  | .error e =>
    if e.isSystemError || e.isValueError then do
      Run.log .error e.message
      return ⟨1, printed ("Error: " ++ e.message)⟩
    else throw e

/-- Loads the settings and sets the log up. -/
def start (a : Arguments) (environment : List (Text × Text)) : Run (Settings × Logger) := do
  let values : List (Text × Json) := match a.logDirectory with
    | some p => [("log_dir", .text p.text)]
    | none => []
  let settings ← loadSettings values environment
  let (logger, failure) ← (Logger.withConsole {}).setUp settings.logDirectory
  match failure with
  | some e => throw e
  | none => return (settings, logger)

/-- Runs the program with the words of a command line. -/
def run (words : List Text) (environment : List (Text × Text)) : Run Ending := do
  match Arguments.read words with
  | .error .help => return ⟨0, []⟩
  | .error .usage => return ⟨2, []⟩
  | .ok a =>
    match ← Run.attempt (start a environment) with
    | .error e => conclude (.error e)
    | .ok (settings, logger) => do
      let answer ← Run.attempt (perform settings a.instruction)
      let ending ← Run.attempt (conclude answer)
      logger.writeTrace (← get).trace
      Run.answer id ending

end ContractBuild.Program
