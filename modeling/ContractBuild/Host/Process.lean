import ContractBuild.Host.Basic

/-!
# Running commands

A command is run to its end within a budget of time. If the budget is used up, or the work is
cancelled, the whole tree of processes is killed, and the process is waited for, before the
failure is passed on.
-/

set_option autoImplicit false

namespace ContractBuild

/-- What a command that ended by itself says, and how long it took. -/
structure TimedOutput extends CommandOutput where
  /-- The seconds from start to end. -/
  duration : Binary64
  deriving DecidableEq, Repr

namespace TimedOutput

/-- The place in which a command ran, for the log. -/
def directoryText : Option Path → Text
  | some p => p.text
  | none => "None"

/-- The record of a command in the log. -/
def record (c : Command) (out : TimedOutput) (time : Timestamp) : Text :=
  Text.join ['\n']
    ["", "========== Build Log ==========",
     "Command: " ++ Text.join [' '] c.words,
     "Working Directory: " ++ directoryText c.directory,
     "Exit Code: " ++ Text.ofInt out.exitCode,
     "Duration: " ++ out.duration.fixedText 2 ++ " seconds",
     "Timestamp: " ++ time.isoText, "",
     "STDOUT:", out.stdout, "",
     "STDERR:", out.stderr,
     "==============================", ""]

end TimedOutput

namespace Run

/-- What comes of the next process: a program that is not there, if nothing is told. -/
def nextSpawn (c : Command) : Run Spawn :=
  modifyGet fun h => match h.spawns with
    | [] => (.refused (programMissing c.program), h)
    | s :: rest => (s, { h with spawns := rest })

/-- Starts a process. What it writes is written below its directory. -/
def spawn (c : Command) : Run Child := do
  note (.spawned c (← get).files)
  match ← nextSpawn c with
  | .refused e => throw (.os e)
  | .interrupted => throw .interrupted
  | .started child => do
    let base := c.directory.getD Path.here
    modify fun h => { h with files := FileRun.plantAll base child.writes h.files }
    return child

/-- Kills processes one after the other; one that is dead already stops nothing. -/
def killAll (gone : List ProcessId) : List ProcessId → Run Unit
  | [] => pure ()
  | id :: rest => do
    note (if id ∈ gone then .foundDead id else .killed id)
    killAll gone rest

/-- Kills the tree of a process, and waits for the process. -/
def killTree (child : Child) : Run Unit := do
  killAll child.gone child.targets
  note .waited

/-- Runs a command. -/
def command (c : Command) (budget : Binary64) : Run TimedOutput := do
  let start ← now
  let child ← spawn c
  match child.ending with
  | .overrun => do
    killTree child
    log .error ('\'' :: c.stage ++ "' timed out after " ++ budget.text ++ " seconds")
    throw (.overrun ⟨c.stage, budget⟩)
  | .cancelled => do
    killTree child
    throw .cancelled
  | .exited code stdout stderr => do
    note .exited
    let finish ← now
    let duration ← answer .float (start.secondsTo finish)
    let out : TimedOutput :=
      { exitCode := code, stdout := Text.decodeLossy stdout, stderr := Text.decodeLossy stderr
        duration }
    log .debug (out.record c (← now))
    return out

/-- Runs a command that may fail: the output, or the refusal or overrun. Every other failure
is passed on. -/
def tryCommand (c : Command) (budget : Binary64) : Run (Except Failure TimedOutput) := do
  match ← attempt (command c budget) with
  | .ok out => return .ok out
  | .error e => if e.isSystemError then return .error e else throw e

end Run

end ContractBuild
