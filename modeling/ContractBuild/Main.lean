import ContractBuild.CommandLine.Program
import Std.Time.Zoned

/-!
# The executable

The thin layer between the machine and `Program.run`: it collects what a run may look at (the
files that the words of the command line name, the file of variables, the environment and the
time), runs the program, and writes back what the run has changed. It starts no process and
posts nothing, so here the toolchain counts as missing.
-/

set_option autoImplicit false

namespace ContractBuild.Main

/-- The variables of the environment that can be settings, in capitals and in small letters. -/
def variableNames : List Text :=
  let names := SettingSources.names.map (SettingSources.envMark ++ ·)
  names.map (·.map Char.toUpper) ++ names

/-- The environment, as far as it concerns the settings. -/
def readEnvironment : IO (List (Text × Text)) :=
  variableNames.filterMapM fun name => do
    return (← IO.getEnv (String.ofList name)).map fun v => (name, v.toList)

/-- What stands at a path of the machine. -/
def readEntry (name : Text) : IO (Option Entry) := do
  try
    let content ← IO.FS.readBinFile (String.ofList name)
    return some (.file content.toList)
  catch
    | .noFileOrDirectory _ _ _ => return none
    | _ => return some .directory

/-- The names that a word of the command line may mean: itself, and what stands behind an
equals sign in it. -/
def namesIn (word : Text) : List Text :=
  let (_, value) := ArgumentWord.cutAtEquals word
  word :: value.toList

/-- The files that a run may look at. -/
def readFiles (words : List Text) : IO Files := do
  let names := Program.variablesPath.text :: words.flatMap namesIn
  let items ← (names.filter fun n => !n.isEmpty).filterMapM fun name => do
    return (← readEntry name).map fun e => (Path.ofText name, e)
  return FileRun.plantAll Path.here items {}

/-- The local time. -/
def readTime : IO Timestamp := do
  let now ← Std.Time.PlainDateTime.now
  return {
    year := now.year.toNat, month := now.month.val.toNat, day := now.day.val.toNat
    hour := now.hour.val.toNat, minute := now.minute.val.toNat
    second := now.second.val.toNat, microsecond := now.nanosecond.val.toNat / 1000 }

/-- Makes an entry on the machine. -/
def writeEntry (position : Position) : Entry → IO Unit
  | .directory => IO.FS.createDirAll (String.ofList (Text.join ['/'] position))
  | .file content =>
    IO.FS.writeBinFile (String.ofList (Text.join ['/'] position)) ⟨content.toArray⟩
  | .link _ => pure ()

/-- Writes back the entries that a run has made or changed. -/
def writeBack (before after : Files) : IO Unit :=
  after.entries.forM fun e => do
    if before.at? e.1 ≠ some e.2 then writeEntry e.1 e.2

/-- Shows the lines of the log that go to the console. -/
def showLog (trace : List Event) : IO Unit :=
  trace.forM fun e => do
    match e with
    | .logged level message =>
      if LogHandler.console.level.rank ≤ level.rank then
        IO.eprintln (String.ofList (level.name ++ [':', ' '] ++ message))
    | _ => pure ()

/-- Runs the program on the machine. -/
def run (words : List Text) : IO UInt32 := do
  let files ← readFiles words
  let time ← readTime
  let environment ← readEnvironment
  let (result, host) := (Program.run words environment).on { files, times := ⟨time, []⟩ }
  writeBack files host.files
  showLog host.trace
  match result with
  | .ok ending => do
    IO.print (String.ofList ending.output)
    return ending.exitCode.toUInt32
  | .error e => do
    IO.eprintln (String.ofList e.message)
    return 1

end ContractBuild.Main

/-- The entry of the executable. -/
def main (arguments : List String) : IO UInt32 :=
  ContractBuild.Main.run (arguments.map String.toList)
