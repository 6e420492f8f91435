import ContractBuild.Host.Files
import ContractBuild.Text.Utf8

/-!
# Child processes

What a command is, what a child process does that is started with it, and how the tree of its
descendants is killed.
-/

set_option autoImplicit false

namespace ContractBuild

/-- A command line and the directory in which it runs, if that is not the working directory. -/
structure Command where
  program : Text
  arguments : List Text
  directory : Option Path := none
  deriving DecidableEq, Repr

namespace Command

/-- All words of the command. -/
def words (c : Command) : List Text :=
  c.program :: c.arguments

/-- The name under which a command is reported: its arguments behind the word `cargo`,
whatever the program is called. -/
def stage (c : Command) : Text :=
  Text.join [' '] ("cargo" :: c.arguments)

end Command

/-- What a command that ended by itself says. -/
structure CommandOutput where
  exitCode : Int
  stdout : Text
  stderr : Text
  deriving DecidableEq, Repr

/-- A process of a tree: the one that was started, or a descendant with its number. -/
inductive ProcessId
  | own
  | descendant (n : Int)
  deriving DecidableEq, Repr

/-- How a child process comes to its end. -/
inductive ChildEnding
  /-- It ends by itself, with what it wrote to both streams. -/
  | exited (code : Int) (stdout stderr : Bytes)
  /-- Its time runs out. -/
  | overrun
  /-- The work that waits for it is cancelled. -/
  | cancelled
  deriving DecidableEq, Repr

/-- A child process that was started: what it writes below its directory, how it ends, and
what its tree of processes looks like by then. -/
structure Child where
  writes : List (Path × Entry) := []
  ending : ChildEnding
  descendants : List Int := []
  gone : List ProcessId := []
  vanished : Bool := false
  deriving DecidableEq, Repr

/-- What comes of starting a process. -/
inductive Spawn
  | refused (e : OsError)
  | interrupted
  | started (child : Child)
  deriving DecidableEq, Repr

namespace Child

/-- The processes to be killed: all descendants and then the process itself. None is found
if the process itself is no longer there. -/
def targets (c : Child) : List ProcessId :=
  if c.vanished then [] else c.descendants.map .descendant ++ [.own]

end Child

/-- The refusal to start a program that does not exist. -/
def programMissing (program : Text) : OsError :=
  FileFault.missing.error program

end ContractBuild
