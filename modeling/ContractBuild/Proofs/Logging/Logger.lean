import ContractBuild.Logging.Logger
import ContractBuild.Proofs.Files.Operations

/-!
# Setting a logger up again

A logger may be set up any number of times, with a directory or without, and any of the calls may
fail after it has added the console. The handlers that come of it are the console and at most one
file: that of the first call whose directory can be made and whose file can be opened in it. From
then on a call changes nothing, neither the logger nor the host.

Each call stands here with the host that it finds, so between two calls anything may happen to the
files and the clock.

Main statement: `Logger.setUp_isSettled`.
-/

set_option autoImplicit false

namespace ContractBuild

/-- A call that sets a logger up: the directory that it is given, and the host that it finds. -/
structure SetUpCall where
  directory : Option Path
  host : Host

namespace SetUpCall

/-- The file that the call is to open in a directory. It is named for the time. -/
def fileIn (c : SetUpCall) (directory : Path) : Path :=
  (directory.child (Logger.fileName c.host.times.next.1)).collapsed

/-- The directory of the call can be made, and this is the file in it, which can be opened. -/
def Opens (c : SetUpCall) (path : Path) : Prop :=
  ∃ directory made opened, c.directory = some directory ∧ path = c.fileIn directory ∧
    (FileRun.makeDirectories true directory).on c.host.files = (.ok (), made) ∧
    (Logger.append path []).on made = (.ok (), opened)

/-- The file that the call opens, if it is the first one to open any. -/
def opened? (c : SetUpCall) : Option Path :=
  c.directory.bind fun directory => ((Logger.openFile directory).on c.host).1.toOption

end SetUpCall

namespace Logger

open SetUpCall (fileIn)

/-! ## One call -/

theorem on_files {α : Type} (work : FileRun α) (h : Host) :
    (Run.onFiles work).on h =
      ((work.on h.files).1.mapError .file, { h with files := (work.on h.files).2 }) :=
  Run.on_onFiles h work

/-- Both steps of opening a file have to be accepted. -/
theorem openFile_eq_ok_iff {c : SetUpCall} {directory path : Path} :
    ((openFile directory).on c.host).1 = .ok path ↔ path = c.fileIn directory ∧
      ∃ made opened, (FileRun.makeDirectories true directory).on c.host.files = (.ok (), made) ∧
        (append path []).on made = (.ok (), opened) := by
  -- The directory is refused, or the file is, or neither.
  rw [openFile, Run.on_bind, on_files]
  cases hmade : (FileRun.makeDirectories true directory).on c.host.files with
  | mk answer made =>
  cases answer with
  | error e =>
    constructor
    · intro h
      cases h
    · rintro ⟨-, made', opened, h, -⟩
      cases h
  | ok _ =>
    simp only [Except.mapError, Run.on_bind, Run.on_now, on_files]
    cases hopened : (append (fileIn c directory) []).on made with
    | mk answer opened =>
    rw [fileIn] at hopened
    simp only [hopened]
    cases answer with
    | error e =>
      constructor
      · intro h
        cases h
      · rintro ⟨rfl, made', opened', h, h'⟩
        cases h
        rw [fileIn, hopened] at h'
        cases h'
    | ok _ =>
      constructor
      · intro h
        cases h
        exact ⟨rfl, made, opened, rfl, hopened⟩
      · rintro ⟨rfl, -⟩
        rfl

theorem toOption_eq_some_iff {ε α : Type} {x : Except ε α} {a : α} :
    x.toOption = some a ↔ x = .ok a := by
  cases x with
  | error e => simp [Except.toOption]
  | ok b => simp [Except.toOption]

theorem opened?_eq_some_iff {c : SetUpCall} {path : Path} :
    c.opened? = some path ↔ c.Opens path := by
  rw [SetUpCall.opened?, Option.bind_eq_some_iff, SetUpCall.Opens]
  simp only [toOption_eq_some_iff, openFile_eq_ok_iff]
  constructor
  · rintro ⟨directory, hdirectory, hpath, made, opened, hmade, hopened⟩
    exact ⟨directory, made, opened, hdirectory, hpath, hmade, hopened⟩
  · rintro ⟨directory, made, opened, hdirectory, hpath, hmade, hopened⟩
    exact ⟨directory, hdirectory, hpath, made, opened, hmade, hopened⟩

/-- The handlers of a logger that is set up: the console, and then its file, if there is one. -/
def handlersWith (file? : Option Path) : List LogHandler :=
  .console :: (file?.map LogHandler.file).toList

theorem withConsole_handlersWith (file? : Option Path) :
    withConsole ⟨handlersWith file?⟩ = ⟨handlersWith file?⟩ := rfl

/-- What a call does to a logger that has its console and perhaps a file. It never stops half way:
the failure that it raises comes with the logger that it leaves. -/
theorem on_setUp {l : Logger} {file? : Option Path} (hl : l.withConsole = ⟨handlersWith file?⟩)
    (c : SetUpCall) :
    ∃ failure host, (l.setUp c.directory).on c.host =
        (.ok (⟨handlersWith (file?.or c.opened?)⟩, failure), host) ∧
      (failure.isSome ↔ c.directory.isSome ∧ file?.or c.opened? = none) ∧
      (c.directory = none ∨ file?.isSome → host = c.host) := by
  -- Without a directory, or with a file, the call ends before it looks at the host.
  cases hdirectory : c.directory with
  | none =>
    have hopened : c.opened? = none := by
      rw [SetUpCall.opened?, hdirectory, Option.bind_none]
    refine ⟨none, c.host, ?_, by simp, fun _ => rfl⟩
    rw [setUp, hl, hopened, Option.or_none]
    rfl
  | some directory =>
  cases file? with
  | some path =>
    refine ⟨none, c.host, ?_, by simp, fun _ => rfl⟩
    rw [setUp, hl]
    rfl
  | none =>
    have hopened : c.opened? = ((openFile directory).on c.host).1.toOption := by
      rw [SetUpCall.opened?, hdirectory, Option.bind_some]
    rw [hopened, Option.none_or]
    cases hanswer : (openFile directory).on c.host with
    | mk answer host =>
    rw [setUp, hl]
    change ∃ failure after, (Run.attempt (openFile directory) >>= _).on c.host = _ ∧ _
    rw [Run.on_bind_ok (Run.on_attempt_of hanswer)]
    cases answer with
    | error e => exact ⟨some e, host, rfl, by simp [Except.toOption], by simp⟩
    | ok path => exact ⟨none, host, rfl, by simp [Except.toOption], by simp⟩

/-! ## Sequences of calls -/

/-- The logger after a call, whether the call fails or not. -/
def afterCall (l : Logger) (c : SetUpCall) : Logger :=
  match ((l.setUp c.directory).on c.host).1 with
  | .ok (after, _) => after
  | .error _ => l

/-- The logger after several calls, the first of which finds it without handlers. -/
def afterCalls (calls : List SetUpCall) : Logger :=
  calls.foldl afterCall {}

theorem afterCalls_concat (calls : List SetUpCall) (c : SetUpCall) :
    afterCalls (calls ++ [c]) = (afterCalls calls).afterCall c := by
  rw [afterCalls, List.foldl_append]
  rfl

/-- The first file that one of the calls opens. -/
def firstOpened? (calls : List SetUpCall) : Option Path :=
  calls.findSome? (·.opened?)

theorem firstOpened?_concat (calls : List SetUpCall) (c : SetUpCall) :
    firstOpened? (calls ++ [c]) = (firstOpened? calls).or c.opened? := by
  rw [firstOpened?, List.findSome?_append]
  cases hopened : c.opened? <;> simp [List.findSome?, hopened, firstOpened?]

/-- After any calls the next one goes on with the console and the first file that was opened. -/
theorem withConsole_afterCalls (calls : List SetUpCall) :
    (afterCalls calls).withConsole = ⟨handlersWith (firstOpened? calls)⟩ := by
  -- By induction from the end: the last call finds what the calls before it have left.
  induction calls using List.reverseRecOn with
  | nil => rfl
  | append_singleton calls c ih =>
    obtain ⟨failure, host, hcall, -, -⟩ := on_setUp ih c
    rw [afterCalls_concat, afterCall, hcall, firstOpened?_concat]
    exact withConsole_handlersWith _

/-- A call that was made leaves the console and the first file that was opened. -/
theorem afterCalls_of_ne_nil {calls : List SetUpCall} (h : calls ≠ []) :
    afterCalls calls = ⟨handlersWith (firstOpened? calls)⟩ := by
  rcases List.eq_nil_or_concat calls with rfl | ⟨before, c, rfl⟩
  · exact absurd rfl h
  · obtain ⟨failure, host, hcall, -, -⟩ := on_setUp (withConsole_afterCalls before) c
    rw [List.concat_eq_append, afterCalls_concat, afterCall, hcall, firstOpened?_concat]

/-- The calls have this as the first file that can be opened. -/
def FirstOpens (calls : List SetUpCall) (path : Path) : Prop :=
  ∃ before c after, calls = before ++ c :: after ∧ c.Opens path ∧
    ∀ e ∈ before, ∀ other, ¬ e.Opens other

theorem opened?_eq_none_iff {c : SetUpCall} : c.opened? = none ↔ ∀ path, ¬ c.Opens path := by
  rw [Option.eq_none_iff_forall_ne_some]
  simp only [ne_eq, opened?_eq_some_iff]

theorem firstOpened?_eq_some_iff {calls : List SetUpCall} {path : Path} :
    firstOpened? calls = some path ↔ FirstOpens calls path := by
  rw [firstOpened?, List.findSome?_eq_some_iff]
  simp only [opened?_eq_some_iff, opened?_eq_none_iff]
  rfl

theorem firstOpened?_eq_none_iff {calls : List SetUpCall} :
    firstOpened? calls = none ↔ ∀ e ∈ calls, ∀ path, ¬ e.Opens path := by
  rw [firstOpened?, List.findSome?_eq_none_iff]
  simp only [opened?_eq_none_iff]

/-! ## The handlers -/

theorem count_console_handlersWith (file? : Option Path) :
    (handlersWith file?).count .console = 1 := by
  cases file? with
  | none => rfl
  | some path => rfl

theorem countP_isFile_handlersWith (file? : Option Path) :
    (handlersWith file?).countP (·.isFile) ≤ 1 := by
  cases file? with
  | none => exact Nat.zero_le 1
  | some path => exact Nat.le_refl 1

theorem mem_handlersWith_iff {file? : Option Path} {path : Path} :
    .file path ∈ handlersWith file? ↔ file? = some path := by
  cases file? with
  | none => simp [handlersWith]
  | some other => simp [handlersWith, eq_comm]

/-- What a call leaves behind, the calls before it being given: the logger, the failure that it
raises, and the host. -/
structure IsSettled (before : List SetUpCall) (c : SetUpCall) (l : Logger)
    (failure : Option Failure) (host : Host) : Prop where
  console : l.handlers.count .console = 1
  files : l.handlers.countP (·.isFile) ≤ 1
  /-- The file is that of the first call that could open one. -/
  file_iff : ∀ path, .file path ∈ l.handlers ↔ FirstOpens (before ++ [c]) path
  failure_iff : failure.isSome ↔
    c.directory.isSome ∧ ∀ e ∈ before ++ [c], ∀ path, ¬ e.Opens path
  /-- Once there is a file, a call changes neither the logger nor the host. -/
  unchanged : ∀ path, .file path ∈ (afterCalls before).handlers →
    l = afterCalls before ∧ host = c.host

/-- After every call of a sequence, failed ones included, the logger has one console and at most one
file, that of the first call that could open one, and from then on nothing is changed. -/
theorem setUp_isSettled (before : List SetUpCall) (c : SetUpCall) :
    ∃ failure host, ((afterCalls before).setUp c.directory).on c.host =
        (.ok (afterCalls (before ++ [c]), failure), host) ∧
      IsSettled before c (afterCalls (before ++ [c])) failure host := by
  obtain ⟨failure, host, hcall, hfailure, hhost⟩ := on_setUp (withConsole_afterCalls before) c
  rw [← firstOpened?_concat] at hcall hfailure
  rw [afterCalls_of_ne_nil (List.append_ne_nil_of_right_ne_nil before (List.cons_ne_nil c []))]
  refine ⟨failure, host, hcall, ?_⟩
  constructor
  case console => exact count_console_handlersWith _
  case files => exact countP_isFile_handlersWith _
  case file_iff =>
    intro path
    rw [mem_handlersWith_iff, firstOpened?_eq_some_iff]
  case failure_iff => rw [hfailure, firstOpened?_eq_none_iff]
  case unchanged =>
    intro path hpath
    have hcalled : before ≠ [] := by
      rintro rfl
      cases hpath
    rw [afterCalls_of_ne_nil hcalled] at hpath ⊢
    have hopened := mem_handlersWith_iff.1 hpath
    rw [firstOpened?_concat, hopened, Option.some_or]
    rw [hopened] at hhost
    exact ⟨rfl, hhost (.inr rfl)⟩

/-- A file stands in the way of the first directory, and the second one comes too late for the
third. -/
example :
    let host : Host := { files := ({} : Files).put ["logs"] (.file []) }
    (afterCalls [⟨some (.ofText "logs"), host⟩, ⟨none, host⟩, ⟨some (.ofText "a/b"), host⟩,
        ⟨some (.ofText "c"), host⟩]).handlers =
      [.console, .file (.ofText "a/b/debug_20240102_030405.log")] := by
  decide +kernel

end Logger

end ContractBuild
