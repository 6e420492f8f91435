import ContractBuild.Host.Child
import ContractBuild.Host.Failure
import ContractBuild.Host.Reply
import ContractBuild.Host.Timestamp

/-!
# The host

The machine that builds run on: its files, its clocks, what comes of the processes and the
requests that are yet to be started, and the trace of all that has happened. Work on the host
is a `Run`, which changes the host and may stop with a failure; what it changed before stays.
-/

set_option autoImplicit false

namespace ContractBuild

/-! ## Clocks -/

/-- Readings that come in turn; the last one stands for ever. -/
structure Readings (α : Type) where
  current : α
  later : List α := []
  deriving DecidableEq, Repr

/-- The next reading, and those after it. -/
def Readings.next {α : Type} (r : Readings α) : α × Readings α :=
  match r.later with
  | [] => (r.current, r)
  | a :: rest => (r.current, ⟨a, rest⟩)

/-- A counter of nanoseconds: one that advances by one at each reading, or one with given
readings. -/
inductive Ticker
  | counting (next : Int)
  | given (readings : Readings Int)
  deriving DecidableEq, Repr

/-- The next tick, and the counter after it. -/
def Ticker.next : Ticker → Int × Ticker
  | counting n => (n, counting (n + 1))
  | given r => (r.next.1, given r.next.2)

/-! ## Events -/

/-- The levels of a log. -/
inductive LogLevel
  | debug
  | info
  | warning
  | error
  | critical
  deriving DecidableEq, Repr

namespace LogLevel

/-- All levels, from the least grave one. -/
def all : List LogLevel := [debug, info, warning, error, critical]

/-- The name of a level. -/
def name : LogLevel → Text
  | debug => "DEBUG"
  | info => "INFO"
  | warning => "WARNING"
  | error => "ERROR"
  | critical => "CRITICAL"

/-- The number of a level; a graver one has a greater number. -/
def rank : LogLevel → Nat
  | debug => 10
  | info => 20
  | warning => 30
  | error => 40
  | critical => 50

end LogLevel

/-- Something that happened on the host. -/
inductive Event
  /-- A process was to be started, with these files on the host. -/
  | spawned (command : Command) (files : Files)
  /-- The last process that was started ended by itself. -/
  | exited
  /-- A process was killed. -/
  | killed (id : ProcessId)
  /-- A process was to be killed and was dead already. -/
  | foundDead (id : ProcessId)
  /-- The last process that was started was waited for. -/
  | waited
  /-- A build directory was removed, or an attempt was made. -/
  | removed (root : Path)
  /-- A request was posted. -/
  | posted (request : Request)
  /-- A remote service reported what a run wrote to both streams. -/
  | reported (stdout stderr : Json)
  /-- A line was logged. -/
  | logged (level : LogLevel) (message : Text)

/-! ## The host and work on it -/

/-- The state of the machine, with what is yet to come and what has happened. -/
structure Host where
  files : Files := {}
  ticker : Ticker := .counting 1700000000000000000
  /-- The text that the last part of directory names is taken from. -/
  token : Text := "0123456789abcdef0123456789abcdef"
  /-- What comes of the next processes, in the order in which they are started. -/
  spawns : List Spawn := []
  /-- What comes of the next requests. -/
  replies : List Reply := []
  times : Readings Timestamp := ⟨⟨2024, 1, 2, 3, 4, 5, 0⟩, []⟩
  trace : List Event := []

/-- Work on the host. -/
abbrev Run := ExceptT Failure (StateM Host)

namespace Run

/-- The result of work, and the host after it. -/
def on {α : Type} (work : Run α) (h : Host) : Except Failure α × Host :=
  ExceptT.run work h

/-- Adds an event to the trace. -/
def note (e : Event) : Run Unit :=
  modify fun h => { h with trace := h.trace ++ [e] }

/-- Logs a line. -/
def log (level : LogLevel) (message : Text) : Run Unit :=
  note (.logged level message)

/-- The next reading of the local time. -/
def now : Run Timestamp :=
  modifyGet fun h => (h.times.next.1, { h with times := h.times.next.2 })

/-- The next reading of the counter of nanoseconds. -/
def tick : Run Int :=
  modifyGet fun h => (h.ticker.next.1, { h with ticker := h.ticker.next.2 })

/-- A finished answer as work. -/
def answer {ε α : Type} (cause : ε → Failure) : Except ε α → Run α
  | .ok a => pure a
  | .error e => throw (cause e)

/-- Asks the files of the host. -/
def ask {α : Type} (question : Files → Except FileError α) : Run α := do
  answer .file (question (← get).files)

/-- Works on the files of the host. -/
def onFiles {α : Type} (work : FileRun α) : Run α := do
  let h ← get
  let (result, files) := (ExceptT.run work).run h.files
  set { h with files }
  answer .file result

/-- Work with its failure as a value, so that the work after it is done in any case. -/
def attempt {α : Type} (work : Run α) : Run (Except Failure α) :=
  ExceptT.mk (Except.ok <$> ExceptT.run work)

/-! ## Laws

How each operation answers and changes the host; proofs about work cite these equations and
unfold nothing. -/

section Laws

variable {α β : Type} (h : Host)

@[simp] theorem on_pure (a : α) : (pure a : Run α).on h = (.ok a, h) := rfl

@[simp] theorem on_throw (e : Failure) : (throw e : Run α).on h = (.error e, h) := rfl

theorem on_bind (work : Run α) (f : α → Run β) :
    (work >>= f).on h = match work.on h with
      | (.ok a, h') => (f a).on h'
      | (.error e, h') => (.error e, h') := by
  show StateT.run _ _ = _
  simp only [on, bind, ExceptT.bind, ExceptT.run, ExceptT.mk, StateT.bind, StateT.run]
  split
  rename_i r h' hr
  cases r with
  | ok a => simp only [ExceptT.bindCont, hr]
  | error e => simp only [hr]; rfl

theorem on_bind_ok {work : Run α} {h h' : Host} {a : α} (hw : work.on h = (.ok a, h'))
    (f : α → Run β) : (work >>= f).on h = (f a).on h' := by
  rw [on_bind, hw]

theorem on_bind_error {work : Run α} {h h' : Host} {e : Failure}
    (hw : work.on h = (.error e, h')) (f : α → Run β) : (work >>= f).on h = (.error e, h') := by
  rw [on_bind, hw]

theorem on_tryCatch (work : Run α) (f : Failure → Run α) :
    (tryCatch work f).on h = match work.on h with
      | (.ok a, h') => (.ok a, h')
      | (.error e, h') => (f e).on h' := by
  simp only [on, tryCatch, tryCatchThe, MonadExceptOf.tryCatch, ExceptT.tryCatch, ExceptT.run,
    ExceptT.mk, bind, StateT.bind]
  split
  rename_i r h' hr
  cases r with
  | ok a => simp only [hr]; rfl
  | error e => simp only [hr]

@[simp] theorem on_attempt (work : Run α) :
    (attempt work).on h = (.ok (work.on h).1, (work.on h).2) := rfl

theorem on_attempt_of {work : Run α} {h h' : Host} {r : Except Failure α}
    (hw : work.on h = (r, h')) : (attempt work).on h = (.ok r, h') := by
  rw [on_attempt, hw]

@[simp] theorem on_get : (get : Run Host).on h = (.ok h, h) := rfl

@[simp] theorem on_modify (f : Host → Host) : (modify f : Run Unit).on h = (.ok (), f h) := rfl

@[simp] theorem on_note (e : Event) :
    (note e).on h = (.ok (), { h with trace := h.trace ++ [e] }) := rfl

@[simp] theorem on_log (level : LogLevel) (message : Text) :
    (log level message).on h =
      (.ok (), { h with trace := h.trace ++ [.logged level message] }) := rfl

@[simp] theorem on_now :
    now.on h = (.ok h.times.next.1, { h with times := h.times.next.2 }) := rfl

@[simp] theorem on_tick :
    tick.on h = (.ok h.ticker.next.1, { h with ticker := h.ticker.next.2 }) := rfl

@[simp] theorem on_answer {ε : Type} (cause : ε → Failure) (r : Except ε α) :
    (answer cause r).on h = (r.mapError cause, h) := by
  cases r <;> rfl

@[simp] theorem on_ask (question : Files → Except FileError α) :
    (ask question).on h = ((question h.files).mapError .file, h) := by
  simp [ask, on_bind]

@[simp] theorem on_onFiles (work : FileRun α) :
    (onFiles work).on h =
      (((ExceptT.run work).run h.files).1.mapError .file,
        { h with files := ((ExceptT.run work).run h.files).2 }) := by
  simp only [onFiles, on_bind, on_get]
  cases hr : (ExceptT.run work).run h.files with
  | mk r f => cases r <;> rfl

end Laws

end Run

end ContractBuild
