import ContractBuild.Proofs.Build.Lifetime
import ContractBuild.Proofs.Host.Supervision

/-!
# No process outlives its stage

A property of the trace that all commands of the toolchain have, a compilation and a check of the
syntax have as well (`Run.TraceProperty.compile`, `Run.TraceProperty.checkSyntax`).

Main statement: `Toolchain.ended_before_removal`. A command whose time runs out, or which is
cancelled, fails only after the whole tree of its process was killed and the process was waited for;
so whenever a compilation or a check of the syntax removes its directory, every process that it has
started has come to its end.
-/

set_option autoImplicit false

namespace ContractBuild

/-! ## Properties of the trace -/

namespace Run.TraceProperty

open Toolchain

variable {Q : ∀ {α : Type}, Run α → Prop} (hQ : TraceProperty Q)

include hQ

section Workspaces

variable {w : Workspace} {source template : Text}

theorem name (parent : Path) (project : Text) : Q (Workspace.name parent project) :=
  hQ.quiet fun _ => ⟨rfl, rfl⟩

theorem prepare : Q (w.prepare source template) := by
  have hfill : Q (w.fill source template) :=
    hQ.bind (hQ.onFiles _) fun _ => hQ.bind (hQ.answer _ _) fun _ =>
      hQ.bind (hQ.onFiles _) fun _ => hQ.onFiles _
  exact hQ.bind (hQ.tryCatch hfill fun _ => hQ.throw _) fun _ => hQ.log _ _

theorem release : Q w.release := by
  refine hQ.bind (hQ.quiet fun _ => ⟨rfl, rfl⟩) fun _ => hQ.bind (hQ.aside rfl) fun _ =>
    hQ.bind (hQ.ask _) fun there => ?_
  cases there with
  | true => exact hQ.log _ _
  | false => exact hQ.log _ _

theorem within {α : Type} {parent : Path} {project : Text} {work : Workspace → Run α}
    (hw : ∀ w, Q (work w)) : Q (Workspace.within parent project source template work) := by
  have hacquire : Q (Workspace.acquire parent project source template) := by
    refine hQ.bind (hQ.name _ _) fun w => hQ.bind (hQ.attempt hQ.prepare) fun r => ?_
    cases r with
    | ok => exact hQ.pure _
    | error e => exact hQ.bind hQ.release fun _ => hQ.throw _
  exact hQ.bind hacquire fun w => hQ.bind (hQ.attempt (hw w)) fun _ => hQ.bind hQ.release fun _ =>
    hQ.answer _ _

end Workspaces

section Stages

variable {s : Settings} {w : Workspace}
  (hc : ∀ directory arguments budget, Q (Run.command (Toolchain.command s directory arguments)
    budget))

include hc

theorem isAvailable : Q (Toolchain.isAvailable s) := by
  have hversion : Q (Toolchain.version s) := by
    refine hQ.bind (hQ.tryCommand (hc _ _ _)) fun r => ?_
    cases r with
    | ok out => exact hQ.pure _
    | error e => exact hQ.bind (hQ.log _ _) fun _ => hQ.pure _
  exact hQ.bind hversion fun _ => hQ.pure _

theorem hasCompiler : Q (Toolchain.hasCompiler s) := by
  refine hQ.bind (hQ.tryCommand (hc _ _ _)) fun r => ?_
  cases r <;> exact hQ.pure _

theorem abi : Q (Toolchain.abi s w) := by
  refine hQ.bind (hQ.tryCommand (hc _ _ _)) fun r => ?_
  cases r with
  | error e => exact hQ.bind (hQ.log _ _) fun _ => hQ.pure _
  | ok out =>
    simp only
    split
    · exact hQ.bind (hQ.log _ _) fun _ => hQ.pure _
    · exact hQ.pure _

theorem gas : Q (Toolchain.gas s w) := by
  refine hQ.bind (hQ.tryCommand (hc _ _ _)) fun r => ?_
  cases r with
  | error e => exact hQ.bind (hQ.log _ _) fun _ => hQ.pure _
  | ok out => exact hQ.pure _

theorem finish (warnings : List Diagnostic) : Q (Toolchain.finish s w warnings) := by
  have hartifact : Q (Toolchain.artifact w) := by
    refine hQ.bind (hQ.ask _) fun isFile => ?_
    split
    · exact hQ.ask _
    · exact hQ.pure _
  refine hQ.bind hartifact fun bytes => ?_
  cases bytes with
  | nil => exact hQ.bind (hQ.log _ _) fun _ => hQ.bind (hQ.ask _) fun _ => hQ.pure _
  | cons b bytes =>
    exact hQ.bind (hQ.abi hc) fun _ => hQ.bind (hQ.gas hc) fun _ => hQ.bind (hQ.log _ _) fun _ =>
      hQ.pure _

/-- A stage that reports errors is the last one. -/
theorem stage {arguments : List Text} {budget : Binary64} {label : Text}
    {next : StageReport → Run BuildResult} (hnext : ∀ report, Q (next report)) :
    Q (do
      let out ← Run.command (Toolchain.command s (some w.root) arguments) budget
      let report ← interpret label out
      next report) :=
  hQ.bind (hc _ _ _) fun _ => hQ.bind (hQ.answer _ _) fun _ => hnext _

theorem stages : Q (Toolchain.stages s w) := by
  have hbuild : ∀ warnings, Q (Toolchain.build s w warnings) := by
    intro warnings
    refine hQ.stage hc fun report => ?_
    simp only
    split
    · exact hQ.bind (hQ.log _ _) fun _ => hQ.pure _
    · exact hQ.finish hc _
  refine hQ.stage hc fun report => ?_
  simp only
  split
  · exact hQ.bind (hQ.log _ _) fun _ => hQ.pure _
  · exact hbuild _

omit hc in
theorem guarded {α β : Type} {probe : Run Bool} {work : Run α} {post : Except Failure α → Run β}
    {other : Run β} (hprobe : Q probe) (hwork : Q work) (hpost : ∀ r, Q (post r))
    (hother : Q other) : Q (Toolchain.guarded probe work post other) := by
  refine hQ.bind hprobe fun usable => ?_
  cases usable with
  | true => exact hQ.bind (hQ.attempt hwork) fun _ => hpost _
  | false => exact hother

theorem compile (source project : Text) : Q (Toolchain.compile s source project) := by
  rw [compile_eq]
  refine hQ.guarded (hQ.isAvailable hc) (hQ.within fun _ => hQ.stages hc) (fun r => ?_)
    (hQ.bind (hQ.log _ _) fun _ => hQ.pure _)
  unfold compileEnd
  split
  · exact hQ.pure _
  · exact hQ.pure _
  · split
    · exact hQ.bind (hQ.log _ _) fun _ => hQ.pure _
    · exact hQ.throw _

theorem checkSyntax (source : Text) : Q (Toolchain.checkSyntax s source) := by
  have hverdict : ∀ out, Q (verdict out) := by
    intro out
    refine hQ.bind (hQ.answer _ _) fun report => ?_
    split
    · exact hQ.pure _
    · exact hQ.bind (hQ.log _ _) fun _ => hQ.pure _
  rw [checkSyntax_eq]
  refine hQ.guarded (hQ.hasCompiler hc) (hQ.within fun _ => hc _ _ _) (fun r => ?_) (hQ.pure _)
  unfold checkEnd
  split
  · exact hverdict _
  · exact hQ.pure _
  · split
    · exact hQ.pure _
    · exact hQ.throw _

end Stages

end Run.TraceProperty

/-! ## The end of every process -/

namespace Child

/-- The processes of the tree: the descendants, and then the process itself. -/
def tree (child : Child) : List ProcessId :=
  child.descendants.map .descendant ++ [.own]

/-- Right after its start the process has come to its end: it ended by itself, or every process of
its tree was killed, unless it was dead already, and it was waited for. -/
def HasEnded (child : Child) (after : List Event) : Prop :=
  match child.ending with
  | .exited _ _ _ => [.exited] <+: after
  | .overrun => child.tree.map child.killEvent ++ [.waited] <+: after
  | .cancelled => child.tree.map child.killEvent ++ [.waited] <+: after

variable {child : Child}

theorem targets_eq_tree (hfound : child.vanished = false) : child.targets = child.tree :=
  if_neg (by rw [hfound]; exact Bool.false_ne_true)

theorem hasEnded_iff (hfound : child.vanished = false) (after : List Event) :
    child.HasEnded after ↔ child.lastEvents <+: after := by
  unfold HasEnded lastEvents killEvents
  rw [targets_eq_tree hfound]
  cases child.ending <;> rfl

end Child

namespace Toolchain

/-- A command whose process does not end by itself: it fails, and before it fails every process of
the tree that is not dead already is killed, and the process is waited for. -/
structure GivesUp (c : Command) (budget : Binary64) (h : Host) (child : Child) : Prop where
  overrun : child.ending = .overrun →
    ((Run.command c budget).on h).1 = .error (.overrun ⟨c.stage, budget⟩)
  cancelled : child.ending = .cancelled → ((Run.command c budget).on h).1 = .error .cancelled
  ended : ∃ asides, (∀ e ∈ asides, Event.isAside e = true) ∧
    ((Run.command c budget).on h).2.trace = h.trace ++ .spawned c h.files ::
      (child.tree.map child.killEvent ++ .waited :: asides)
  killed : ∀ id, .killed id ∈ ((Run.command c budget).on h).2.trace.drop h.trace.length ↔
    id ∈ child.tree ∧ id ∉ child.gone

/-- Whenever a directory is removed, and after the last event, every process that was started has
come to its end. -/
def AllEnd (spawns : List Spawn) (events : List Event) : Prop :=
  ∀ before c f between rest child, events = before ++ .spawned c f :: between ++ rest →
    (rest = [] ∨ ∃ root after, rest = .removed root :: after) →
    spawns[(Event.starts before).length]? = some (.started child) → child.HasEnded between

theorem givesUp_of_trace {c : Command} {budget : Binary64} {h : Host} {child : Child}
    {asides : List Event} (hfound : child.vanished = false)
    (hoverrun : child.ending = .overrun →
      ((Run.command c budget).on h).1 = .error (.overrun ⟨c.stage, budget⟩))
    (hcancelled : child.ending = .cancelled → ((Run.command c budget).on h).1 = .error .cancelled)
    (hasides : ∀ e ∈ asides, Event.isAside e = true)
    (htrace : ((Run.command c budget).on h).2.trace =
      h.trace ++ .spawned c h.files :: (child.killEvents ++ asides)) :
    GivesUp c budget h child := by
  refine ⟨hoverrun, hcancelled, ⟨asides, hasides, ?_⟩, fun id => ?_⟩
  · rw [htrace, Child.killEvents, Child.targets_eq_tree hfound, List.append_assoc]
    rfl
  · have haside : Event.killed id ∉ asides := fun hmem => by cases hasides _ hmem
    rw [htrace, List.drop_left, ← Child.targets_eq_tree hfound, ← Child.killed_mem_killEvents_iff]
    simp only [List.mem_cons, reduceCtorEq, List.mem_append, haside, or_false, false_or]

theorem givesUp_of_ending {c : Command} {h : Host} {child : Child}
    (ho : h.outcome c = .started child) (hfound : child.vanished = false)
    (hending : child.ending = .overrun ∨ child.ending = .cancelled) (budget : Binary64) :
    GivesUp c budget h child := by
  rcases hending with he | he
  · have hcommand := Run.command_overrun ho he budget
    refine givesUp_of_trace hfound (fun _ => by rw [hcommand]) (fun he' => ?_) ?_
      (by rw [hcommand])
    · rw [he] at he'
      cases he'
    · exact List.forall_mem_singleton.2 rfl
  · have hcommand := Run.command_cancelled ho he budget
    refine givesUp_of_trace hfound (fun he' => ?_) (fun _ => by rw [hcommand])
      (List.forall_mem_nil _) (by rw [hcommand, List.append_nil])
    rw [he] at he'
    cases he'

theorem allEnd_of_settled {spawns rest : List Spawn} {events : List Event}
    (hfound : ∀ child, Spawn.started child ∈ spawns → child.vanished = false)
    (hsettled : Event.Settled spawns events rest) : AllEnd spawns events := by
  rintro before c f between after child rfl hafter hchild
  refine (Child.hasEnded_iff (hfound child (List.mem_of_getElem? hchild)) between).2
    (hsettled.ended ?_ hchild)
  rcases hafter with rfl | ⟨root, after, rfl⟩
  · intro e he
    cases he
  · intro e he
    cases he
    rfl

/-- No process outlives its stage. A command whose time runs out, or which is cancelled, fails only
after the tree of its process was killed and the process was waited for; and whenever a compilation
or a check of the syntax removes its directory, every process that it has started has come to its
end. The processes have to be found when they are looked up. -/
theorem ended_before_removal (s : Settings) :
    (∀ c budget (h : Host) child, h.outcome c = .started child → child.vanished = false →
      child.ending = .overrun ∨ child.ending = .cancelled → GivesUp c budget h child) ∧
    ∀ (call : Call) (h : Host),
      (∀ child, Spawn.started child ∈ h.spawns → child.vanished = false) →
      ∃ events, (call.after s h).trace = h.trace ++ events ∧ AllEnd h.spawns events := by
  refine ⟨fun c budget h child ho hfound hending => givesUp_of_ending ho hfound hending budget,
    fun call h hfound => ?_⟩
  have hcommand : ∀ directory arguments budget,
      Run.Settles (Run.command (command s directory arguments) budget) :=
    fun _ _ _ => Run.settles_command _ _
  obtain ⟨events, htrace, hsettled⟩ : ∃ events,
      (call.after s h).trace = h.trace ++ events ∧
        Event.Settled h.spawns events (call.after s h).spawns := by
    cases call with
    | compile source project =>
      exact Run.traceProperty_settles.compile hcommand source project h
    | checkSyntax source => exact Run.traceProperty_settles.checkSyntax hcommand source h
  exact ⟨events, htrace, allEnd_of_settled hfound hsettled⟩

/-- A check that overruns its time, with two descendants of which one is dead already. -/
def overrunChild : Child :=
  { ending := .overrun
    descendants := [7, 8]
    gone := [.descendant 7] }

/-- A host on which a contract is checked without end. -/
def overrunHost : Host :=
  { spawns := [.started { ending := .exited 0 (Text.encode "0.5.3") [] }, .started overrunChild] }

theorem ended_before_removal_overrunChild :
    GivesUp ⟨"cargo", ["stylus", "check"], none⟩ (.ofNat 60)
        { spawns := [.started overrunChild] } overrunChild ∧
      (Event.starts ((Call.compile "fn main();" "demo").after {} overrunHost).trace).length = 2 ∧
      ∃ events, ((Call.compile "fn main();" "demo").after {} overrunHost).trace = [] ++ events ∧
        AllEnd overrunHost.spawns events := by
  obtain ⟨hcommands, hcalls⟩ := ended_before_removal {}
  refine ⟨hcommands _ _ _ _ rfl rfl (.inl rfl), by decide +kernel, hcalls _ overrunHost ?_⟩
  intro child hmem
  simp only [overrunHost, List.mem_cons, Spawn.started.injEq, List.not_mem_nil, or_false] at hmem
  rcases hmem with rfl | rfl <;> rfl

end Toolchain

end ContractBuild
