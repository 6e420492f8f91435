import ContractBuild.Host.Basic

/-!
# Logging

A logger writes to the console and, once a directory is known, to a file in it. Setting it up
again changes nothing that is there: there is never a second console or a second file.
-/

set_option autoImplicit false

namespace ContractBuild

/-- Where lines of a log go. -/
inductive LogHandler
  | console
  | file (path : Path)
  deriving DecidableEq, Repr

namespace LogHandler

/-- The least level that is written. -/
def level : LogHandler → LogLevel
  | console => .info
  | file _ => .debug

/-- Whether the handler is a file. -/
def isFile : LogHandler → Bool
  | console => false
  | file _ => true

end LogHandler

/-- A logger with its handlers, in the order in which they were added. -/
structure Logger where
  handlers : List LogHandler := []
  deriving DecidableEq, Repr

namespace Logger

/-- The name of the logger in its lines. -/
def name : Text := "stylus_forge"

/-- The level of the logger itself. -/
def level : LogLevel := .debug

/-- Whether there is a console already. -/
def hasConsole (l : Logger) : Bool :=
  l.handlers.any (!·.isFile)

/-- Whether there is a file already. -/
def hasFile (l : Logger) : Bool :=
  l.handlers.any (·.isFile)

/-- The logger with one more handler. -/
def add (l : Logger) (handler : LogHandler) : Logger :=
  ⟨l.handlers ++ [handler]⟩

/-- The logger with a console. -/
def withConsole (l : Logger) : Logger :=
  if l.hasConsole then l else l.add .console

/-! ## Files -/

/-- Adds to the end of a file, which is made if it is missing. -/
def append (p : Path) (content : Bytes) : FileRun Unit := do
  let found ← FileRun.ask fun f => do return f.at? (← f.locate true p)
  match found with
  | some (.file before) => FileRun.writeFile p (before ++ content)
  | _ => FileRun.writeFile p content

/-- The name of the file for a time. -/
def fileName (t : Timestamp) : Text :=
  "debug_" ++ t.fileText ++ ".log"

/-- Makes the directory and opens a file in it. -/
def openFile (directory : Path) : Run Path := do
  Run.onFiles (FileRun.makeDirectories true directory)
  let time ← Run.now
  let path := (directory.child (fileName time)).collapsed
  Run.onFiles (append path [])
  return path

/-- Sets the logger up, and says which failure there was. After a failure the logger has its
console, but no file. -/
def setUp (l : Logger) (directory : Option Path) : Run (Logger × Option Failure) := do
  let l := l.withConsole
  match directory with
  | none => return (l, none)
  | some d =>
    if l.hasFile then return (l, none)
    else match ← Run.attempt (openFile d) with
      | .ok path => return (l.add (.file path), none)
      | .error e => return (l, some e)

/-! ## Lines -/

/-- A line of a file. -/
def line (time : Timestamp) (level : LogLevel) (message : Text) : Text :=
  time.logText ++ " - " ++ name ++ " - " ++ level.name ++ " - " ++ message ++ ['\n']

/-- Writes a line to one handler. What the console shows is not kept. -/
def writeTo (time : Timestamp) (level : LogLevel) (message : Text) : LogHandler → Run Unit
  | .console => pure ()
  | .file path => Run.onFiles (append path (Text.encode (line time level message)))

/-- Writes a line to all handlers. A file that cannot be written is passed over. -/
def write (l : Logger) (level : LogLevel) (message : Text) : Run Unit := do
  let time := (← get).times.current
  l.handlers.forM fun h => do
    let _ ← Run.attempt (writeTo time level message h)
    pure ()

/-- Writes the lines that a trace holds. -/
def writeTrace (l : Logger) (trace : List Event) : Run Unit :=
  trace.forM fun e => match e with
    | .logged level message => l.write level message
    | _ => pure ()

end Logger

end ContractBuild
