import ContractBuild.Proofs.Host.Process

/-!
# The end of every process

A process that is started comes to its end before anything else happens on the host. It ends by
itself; or its time runs out or the work is cancelled, and then every process of its tree is killed,
unless it is dead already, the process itself after its descendants, and it is waited for. Only
then the failure is passed on (`Run.command_overrun`, `Run.command_cancelled`).

`Event.Settled` describes the events of such work, and `Run.Settles` says that work has only such
events; it is closed under the ways to combine work.

Main statement: `Event.Settled.ended`. Wherever the events of such work are cut, unless that is
within the end of a process, every process started before the cut has come to its end before it.
-/

set_option autoImplicit false

namespace ContractBuild

/-! ## Killing a tree of processes -/

namespace Child

/-- The event of killing a process of the tree: one that is dead already is only found dead. -/
def killEvent (child : Child) (id : ProcessId) : Event :=
  if id ∈ child.gone then .foundDead id else .killed id

/-- The events of killing the tree of a process and waiting for it. -/
def killEvents (child : Child) : List Event :=
  child.targets.map child.killEvent ++ [.waited]

/-- The events with which a process comes to its end. -/
def lastEvents (child : Child) : List Event :=
  match child.ending with
  | .exited _ _ _ => [.exited]
  | .overrun => child.killEvents
  | .cancelled => child.killEvents

theorem lastEvents_of_exited {child : Child} {code : Int} {stdout stderr : Bytes}
    (he : child.ending = .exited code stdout stderr) : child.lastEvents = [.exited] := by
  cases child
  cases he
  rfl

theorem lastEvents_of_overrun {child : Child} (he : child.ending = .overrun) :
    child.lastEvents = child.killEvents := by
  cases child
  cases he
  rfl

theorem lastEvents_of_cancelled {child : Child} (he : child.ending = .cancelled) :
    child.lastEvents = child.killEvents := by
  cases child
  cases he
  rfl

/-- Exactly the processes of the tree that are not dead already are killed. -/
theorem killed_mem_killEvents_iff (child : Child) (id : ProcessId) :
    .killed id ∈ child.killEvents ↔ id ∈ child.targets ∧ id ∉ child.gone := by
  have hevent : ∀ id', Event.killed id = child.killEvent id' ↔ id' = id ∧ id ∉ child.gone := by
    intro id'
    unfold killEvent
    split
    · rename_i hgone
      simp only [reduceCtorEq, false_iff]
      rintro ⟨rfl, hnot⟩
      exact hnot hgone
    · rename_i hnot
      simp only [Event.killed.injEq]
      constructor
      · rintro rfl
        exact ⟨rfl, hnot⟩
      · rintro ⟨rfl, -⟩
        rfl
  simp only [killEvents, List.mem_append, List.mem_map, List.mem_singleton, reduceCtorEq, or_false]
  constructor
  · rintro ⟨id', hmem, heq⟩
    obtain ⟨rfl, hnot⟩ := (hevent id').1 heq.symm
    exact ⟨hmem, hnot⟩
  · rintro ⟨hmem, hnot⟩
    exact ⟨id, hmem, ((hevent id).2 ⟨rfl, hnot⟩).symm⟩

end Child

namespace Event

/-- Whether the event belongs to the end of a process. -/
def isEnd : Event → Bool
  | exited => true
  | killed _ => true
  | foundDead _ => true
  | waited => true
  | _ => false

/-- Whether the event concerns neither a process nor a request. -/
def isAside : Event → Bool
  | removed _ => true
  | logged _ _ => true
  | _ => false

end Event

theorem Child.isEnd_of_mem_lastEvents {child : Child} {e : Event} (h : e ∈ child.lastEvents) :
    e.isEnd = true := by
  have hkill : e ∈ child.killEvents → e.isEnd = true := by
    intro h
    rcases List.mem_append.1 h with h | h
    · obtain ⟨id, -, rfl⟩ := List.mem_map.1 h
      unfold killEvent
      split <;> rfl
    · obtain rfl := List.mem_singleton.1 h
      rfl
  unfold lastEvents at h
  split at h
  · obtain rfl := List.mem_singleton.1 h
    rfl
  · exact hkill h
  · exact hkill h

/-! ## Settled events -/

namespace Event

/-- Events on a host with outcomes to come, of which `rest` are left afterwards. Every process that
is started comes to its end at once; besides, directories are removed and lines are logged. -/
inductive Settled : List Spawn → List Event → List Spawn → Prop
  | nil {spawns : List Spawn} : Settled spawns [] spawns
  | aside {spawns rest : List Spawn} {e : Event} {events : List Event} :
      e.isAside = true → Settled spawns events rest → Settled spawns (e :: events) rest
  | refused {spawns rest : List Spawn} {c : Command} {f : Files} {events : List Event} :
      (∀ child, spawns.head? ≠ some (.started child)) → Settled spawns.tail events rest →
      Settled spawns (spawned c f :: events) rest
  | process {spawns rest : List Spawn} {c : Command} {f : Files} {child : Child}
      {events : List Event} :
      spawns.head? = some (.started child) → Settled spawns.tail events rest →
      Settled spawns (spawned c f :: (child.lastEvents ++ events)) rest

namespace Settled

variable {spawns mid rest : List Spawn} {before events : List Event}

theorem append (h : Settled spawns before mid) (h' : Settled mid events rest) :
    Settled spawns (before ++ events) rest := by
  induction h with
  | nil => exact h'
  | aside he _ ih => exact .aside he (ih h')
  | refused hhead _ ih => exact .refused hhead (ih h')
  | process hhead _ ih =>
    rw [List.cons_append, List.append_assoc]
    exact .process hhead (ih h')

theorem of_asides (h : ∀ e ∈ events, e.isAside = true) : Settled spawns events spawns := by
  induction events with
  | nil => exact .nil
  | cons e events ih =>
    obtain ⟨he, hrest⟩ := List.forall_mem_cons.1 h
    exact .aside he (ih hrest)

/-- No request is among the events. -/
theorem not_posted (h : Settled spawns events rest) (r : Request) : posted r ∉ events := by
  induction h with
  | nil => exact List.not_mem_nil
  | aside he _ ih =>
    intro hmem
    rcases List.mem_cons.1 hmem with rfl | hmem
    · cases he
    · exact ih hmem
  | refused _ _ ih =>
    intro hmem
    rcases List.mem_cons.1 hmem with heq | hmem
    · cases heq
    · exact ih hmem
  | process _ _ ih =>
    intro hmem
    rcases List.mem_cons.1 hmem with heq | hmem
    · cases heq
    · rcases List.mem_append.1 hmem with hmem | hmem
      · cases Child.isEnd_of_mem_lastEvents hmem
      · exact ih hmem

/-- Each start uses up one outcome. -/
theorem rest_eq (h : Settled spawns events rest) : rest = spawns.drop (starts events).length := by
  have hend : ∀ child : Child, starts child.lastEvents = [] := by
    intro child
    refine List.filterMap_eq_nil_iff.2 fun e he => ?_
    have := Child.isEnd_of_mem_lastEvents he
    cases e with
    | spawned c f => cases this
    | _ => rfl
  induction h with
  | nil => rfl
  | @aside _ _ e events he _ ih =>
    have hstart : e.start? = none := by
      cases e with
      | spawned c f => cases he
      | _ => rfl
    rw [ih, starts, starts, List.filterMap_cons_none hstart]
  | @refused spawns _ c f events _ _ ih =>
    have hstarts : starts (spawned c f :: events) = (c, f) :: starts events := rfl
    rw [ih, hstarts, List.length_cons, ← List.drop_one, List.drop_drop, Nat.add_comm]
  | @process spawns _ c f child events _ _ ih =>
    have hstarts : starts (spawned c f :: (child.lastEvents ++ events)) =
        (c, f) :: starts events := by
      show (c, f) :: starts (child.lastEvents ++ events) = _
      rw [starts_append, hend, List.nil_append]
    rw [ih, hstarts, List.length_cons, ← List.drop_one, List.drop_drop, Nat.add_comm]

/-- The events can be cut in front of every event that does not belong to the end of a process. -/
theorem split {e : Event} (h : Settled spawns (before ++ e :: events) rest)
    (he : e.isEnd = false) :
    ∃ mid, Settled spawns before mid ∧ Settled mid (e :: events) rest := by
  generalize hall : before ++ e :: events = all at h
  induction h generalizing before with
  | nil => cases before <;> cases hall
  | @aside spawns _ e' _ haside hrest ih =>
    cases before with
    | nil =>
      cases hall
      exact ⟨spawns, .nil, .aside haside hrest⟩
    | cons first before =>
      obtain ⟨rfl, htail⟩ := List.cons.inj hall
      obtain ⟨mid, hbefore, hevents⟩ := ih htail
      exact ⟨mid, .aside haside hbefore, hevents⟩
  | @refused spawns _ _ _ _ hhead hrest ih =>
    cases before with
    | nil =>
      cases hall
      exact ⟨spawns, .nil, .refused hhead hrest⟩
    | cons first before =>
      obtain ⟨rfl, htail⟩ := List.cons.inj hall
      obtain ⟨mid, hbefore, hevents⟩ := ih htail
      exact ⟨mid, .refused hhead hbefore, hevents⟩
  | @process spawns _ _ _ child tail hhead hrest ih =>
    cases before with
    | nil =>
      cases hall
      exact ⟨spawns, .nil, .process hhead hrest⟩
    | cons first before =>
      obtain ⟨rfl, hcut⟩ := List.cons.inj hall
      -- the cut is not within the end of the process, so it comes after it
      obtain ⟨before', rfl, htail⟩ : ∃ before', before = child.lastEvents ++ before' ∧
          before' ++ e :: events = tail := by
        rcases List.append_eq_append_iff.1 hcut with
          ⟨after, hlast, hafter⟩ | ⟨after, hbefore, htail⟩
        · cases after with
          | nil => exact ⟨[], by rw [hlast, List.append_nil, List.append_nil], hafter⟩
          | cons first after =>
            obtain ⟨rfl, -⟩ := List.cons.inj hafter
            have hmem : e ∈ child.lastEvents := by
              rw [hlast]
              exact List.mem_append_right _ List.mem_cons_self
            rw [Child.isEnd_of_mem_lastEvents hmem] at he
            cases he
        · exact ⟨after, hbefore, htail.symm⟩
      obtain ⟨mid, hbefore, hevents⟩ := ih htail
      exact ⟨mid, .process hhead hbefore, hevents⟩

/-- Up to a cut, which is not within the end of a process, or up to the last event, the events after
the start of a process begin with its end. -/
theorem ended {after : List Event} {c : Command} {f : Files} {child : Child}
    (h : Settled spawns (before ++ spawned c f :: events ++ after) rest)
    (hafter : ∀ e ∈ after.head?, e.isEnd = false)
    (hchild : spawns[(starts before).length]? = some (.started child)) :
    child.lastEvents <+: events := by
  obtain ⟨_, hcut⟩ : ∃ mid, Settled spawns (before ++ spawned c f :: events) mid := by
    cases after with
    | nil => exact ⟨rest, by rwa [List.append_nil] at h⟩
    | cons e after =>
      obtain ⟨mid, hcut, -⟩ := h.split (hafter e rfl)
      exact ⟨mid, hcut⟩
  obtain ⟨mid, hbefore, hstarted⟩ := hcut.split rfl
  have hhead : mid.head? = some (.started child) := by
    rw [hbefore.rest_eq, List.head?_drop, hchild]
  cases hstarted with
  | aside haside _ => cases haside
  | refused hnot _ => exact absurd hhead (hnot child)
  | process hhead' _ =>
    rw [hhead'] at hhead
    cases hhead
    exact List.prefix_append _ _

end Settled

end Event

/-! ## The events of a command -/

namespace Run

theorem on_killAll (child : Child) (ids : List ProcessId) (h : Host) :
    (killAll child.gone ids).on h =
      (.ok (), { h with trace := h.trace ++ ids.map child.killEvent }) := by
  induction ids generalizing h with
  | nil => simp [killAll]
  | cons id rest ih =>
    rw [killAll, on_bind_ok (on_note h _), ih, List.map_cons, List.append_assoc]
    rfl

theorem on_killTree (child : Child) (h : Host) :
    (killTree child).on h = (.ok (), { h with trace := h.trace ++ child.killEvents }) := by
  rw [killTree, on_bind_ok (on_killAll child _ h), on_note, Child.killEvents, List.append_assoc]

/-- The host once a process was to be started with a command. -/
def begun (c : Command) (h : Host) : Host :=
  { h with
    files := h.filesAfter c
    spawns := h.spawns.tail
    times := h.times.next.2
    trace := h.trace ++ [.spawned c h.files] }

section Command

variable {c : Command} {h : Host} {child : Child}

/-- A command reads the clock before its process is to be started. -/
theorem on_spawn_begun (c : Command) (h : Host) :
    (spawn c).on { h with times := h.times.next.2 } = (match h.outcome c with
      | .refused e => .error (.os e)
      | .interrupted => .error .interrupted
      | .started child => .ok child, begun c h) :=
  on_spawn c { h with times := h.times.next.2 }

theorem on_spawn_started (ho : h.outcome c = .started child) :
    (spawn c).on { h with times := h.times.next.2 } = (.ok child, begun c h) := by
  rw [on_spawn_begun, ho]

/-- A command whose time runs out fails only after the tree of its process was killed and the
process was waited for. -/
theorem command_overrun (ho : h.outcome c = .started child) (he : child.ending = .overrun)
    (budget : Binary64) :
    (command c budget).on h = (.error (.overrun ⟨c.stage, budget⟩),
      { begun c h with
        trace := h.trace ++ .spawned c h.files :: (child.killEvents ++
          [.logged .error
            ('\'' :: c.stage ++ "' timed out after " ++ budget.text ++ " seconds")]) }) := by
  rw [command, on_bind_ok (on_now h), on_bind_ok (on_spawn_started ho), he]
  simp only
  rw [on_bind_ok (on_killTree child _), on_bind_ok (on_log _ _ _), on_throw]
  simp only [begun, List.append_assoc, List.cons_append, List.nil_append]

/-- A command that is cancelled fails only after the tree of its process was killed and the process
was waited for. -/
theorem command_cancelled (ho : h.outcome c = .started child) (he : child.ending = .cancelled)
    (budget : Binary64) :
    (command c budget).on h = (.error .cancelled,
      { begun c h with trace := h.trace ++ .spawned c h.files :: child.killEvents }) := by
  rw [command, on_bind_ok (on_now h), on_bind_ok (on_spawn_started ho), he]
  simp only
  rw [on_bind_ok (on_killTree child _), on_throw]
  simp only [begun, List.append_assoc, List.singleton_append]

theorem on_now_same (h : Host) :
    ∃ t h', now.on h = (.ok t, h') ∧ h'.spawns = h.spawns ∧ h'.trace = h.trace :=
  ⟨_, _, rfl, rfl, rfl⟩

theorem on_log_aside (level : LogLevel) (message : Text) (h : Host) :
    ∃ e h', e.isAside = true ∧ (log level message).on h = (.ok (), h') ∧
      h'.spawns = h.spawns ∧ h'.trace = h.trace ++ [e] :=
  ⟨.logged level message, _, rfl, rfl, rfl, rfl⟩

/-- A command whose process ends by itself; after that at most a line is logged. -/
theorem command_exited {code : Int} {stdout stderr : Bytes} (ho : h.outcome c = .started child)
    (he : child.ending = .exited code stdout stderr) (budget : Binary64) :
    ∃ asides, (∀ e ∈ asides, Event.isAside e = true) ∧
      ((command c budget).on h).2.trace =
        h.trace ++ .spawned c h.files :: (.exited :: asides) ∧
      ((command c budget).on h).2.spawns = h.spawns.tail := by
  obtain ⟨h₁, hnote, hspawns₁, htrace₁⟩ : ∃ h₁, (note .exited).on (begun c h) = (.ok (), h₁) ∧
      h₁.spawns = h.spawns.tail ∧ h₁.trace = h.trace ++ .spawned c h.files :: [.exited] :=
    ⟨_, rfl, rfl, by simp [begun]⟩
  obtain ⟨finish, h₂, hnow, hspawns₂, htrace₂⟩ := on_now_same h₁
  rw [command, on_bind_ok (on_now h), on_bind_ok (on_spawn_started ho), he]
  simp only
  rw [on_bind_ok hnote, on_bind_ok hnow]
  -- the readings of the clock may be too far apart; then nothing is logged
  cases h.times.next.1.secondsTo finish with
  | error e =>
    rw [on_bind_error (on_answer h₂ .float (.error e))]
    exact ⟨[], List.forall_mem_nil _, htrace₂.trans htrace₁, hspawns₂.trans hspawns₁⟩
  | ok duration =>
    obtain ⟨time, h₃, hnow', hspawns₃, htrace₃⟩ := on_now_same h₂
    obtain ⟨e, h₄, haside, hlog, hspawns₄, htrace₄⟩ := on_log_aside .debug _ h₃
    rw [on_bind_ok (on_answer h₂ .float (.ok duration)), on_bind_ok hnow', on_bind_ok hlog]
    refine ⟨[e], List.forall_mem_singleton.2 haside, ?_,
      hspawns₄.trans (hspawns₃.trans (hspawns₂.trans hspawns₁))⟩
    show h₄.trace = _
    rw [htrace₄, htrace₃, htrace₂, htrace₁, List.append_assoc]
    rfl

/-- A command whose process is not started. -/
theorem command_refused (hnot : ∀ child, h.outcome c ≠ .started child) (budget : Binary64) :
    ((command c budget).on h).2 = begun c h := by
  have hspawn := on_spawn_begun c h
  rw [command, on_bind_ok (on_now h)]
  cases ho : h.outcome c with
  | refused e =>
    rw [ho] at hspawn
    rw [on_bind_error hspawn]
  | interrupted =>
    rw [ho] at hspawn
    rw [on_bind_error hspawn]
  | started child => exact absurd ho (hnot child)

end Command

/-! ## Properties of the trace -/

section Work

variable {α β : Type}

/-- A property of work that depends on the trace and the outcomes to come alone, that asides cannot
break, and that the parts of work pass on to the whole. -/
structure TraceProperty (Q : ∀ {α : Type}, Run α → Prop) : Prop where
  quiet : ∀ {α : Type} {work : Run α},
    (∀ h : Host, (work.on h).2.spawns = h.spawns ∧ (work.on h).2.trace = h.trace) → Q work
  aside : ∀ {e : Event}, e.isAside = true → Q (note e)
  bind : ∀ {α β : Type} {work : Run α} {next : α → Run β},
    Q work → (∀ a, Q (next a)) → Q (work >>= next)
  attempt : ∀ {α : Type} {work : Run α}, Q work → Q (attempt work)
  tryCatch : ∀ {α : Type} {work : Run α} {handler : Failure → Run α},
    Q work → (∀ e, Q (handler e)) → Q (tryCatch work handler)

namespace TraceProperty

variable {Q : ∀ {α : Type}, Run α → Prop} (hQ : TraceProperty Q)

include hQ

theorem pure (a : α) : Q (Pure.pure a : Run α) :=
  hQ.quiet fun _ => ⟨rfl, rfl⟩

theorem throw (e : Failure) : Q (throw e : Run α) :=
  hQ.quiet fun _ => ⟨rfl, rfl⟩

theorem answer {ε : Type} (cause : ε → Failure) (r : Except ε α) : Q (answer cause r) :=
  hQ.quiet fun h => by rw [on_answer]; exact ⟨rfl, rfl⟩

theorem ask (question : Files → Except FileError α) : Q (ask question) :=
  hQ.quiet fun h => by rw [on_ask]; exact ⟨rfl, rfl⟩

theorem onFiles (work : FileRun α) : Q (onFiles work) :=
  hQ.quiet fun h => by rw [on_onFiles]; exact ⟨rfl, rfl⟩

theorem log (level : LogLevel) (message : Text) : Q (log level message) :=
  hQ.aside rfl

theorem tryCommand {c : Command} {budget : Binary64} (hc : Q (command c budget)) :
    Q (tryCommand c budget) := by
  refine hQ.bind (hQ.attempt hc) fun r => ?_
  cases r with
  | ok out => exact hQ.pure _
  | error e =>
    cases he : e.isSystemError with
    | true => simp only [he, if_true]; exact hQ.pure _
    | false => simp only [he, Bool.false_eq_true, if_false]; exact hQ.throw e

end TraceProperty

/-! ## Settled work -/

/-- The work has settled events only, on every way out of it. -/
def Settles {α : Type} (work : Run α) : Prop :=
  ∀ h : Host, ∃ events, (work.on h).2.trace = h.trace ++ events ∧
    Event.Settled h.spawns events (work.on h).2.spawns

theorem settles_quiet {work : Run α}
    (hw : ∀ h : Host, (work.on h).2.spawns = h.spawns ∧ (work.on h).2.trace = h.trace) :
    Settles work := by
  intro h
  obtain ⟨hspawns, htrace⟩ := hw h
  refine ⟨[], by rw [htrace, List.append_nil], ?_⟩
  rw [hspawns]
  exact .nil

theorem settles_note {e : Event} (he : e.isAside = true) : Settles (note e) :=
  fun _ => ⟨[e], rfl, .aside he .nil⟩

theorem settles_bind {work : Run α} {next : α → Run β} (hw : Settles work)
    (hnext : ∀ a, Settles (next a)) : Settles (work >>= next) := by
  intro h
  obtain ⟨events, htrace, hsettled⟩ := hw h
  cases hr : work.on h with
  | mk r h' =>
    rw [hr] at htrace hsettled
    cases r with
    | error e =>
      rw [on_bind_error hr]
      exact ⟨events, htrace, hsettled⟩
    | ok a =>
      rw [on_bind_ok hr]
      obtain ⟨events', htrace', hsettled'⟩ := hnext a h'
      exact ⟨events ++ events', by rw [htrace', htrace, List.append_assoc],
        hsettled.append hsettled'⟩

theorem settles_tryCatch {work : Run α} {handler : Failure → Run α} (hw : Settles work)
    (hhandler : ∀ e, Settles (handler e)) : Settles (tryCatch work handler) := by
  intro h
  obtain ⟨events, htrace, hsettled⟩ := hw h
  rw [on_tryCatch]
  cases hr : work.on h with
  | mk r h' =>
    rw [hr] at htrace hsettled
    cases r with
    | ok a => exact ⟨events, htrace, hsettled⟩
    | error e =>
      obtain ⟨events', htrace', hsettled'⟩ := hhandler e h'
      exact ⟨events ++ events', by rw [htrace', htrace, List.append_assoc],
        hsettled.append hsettled'⟩

/-- Work whose parts are settled is settled. -/
theorem traceProperty_settles : TraceProperty @Settles where
  quiet := settles_quiet
  aside := settles_note
  bind := settles_bind
  attempt := fun hw h => hw h
  tryCatch := settles_tryCatch

theorem head?_spawns_iff {h : Host} {c : Command} {child : Child} :
    h.spawns.head? = some (.started child) ↔ h.outcome c = .started child := by
  unfold Host.outcome
  cases h.spawns <;> simp [programMissing]

theorem settles_command (c : Command) (budget : Binary64) : Settles (command c budget) := by
  intro h
  by_cases hstarted : ∃ child, h.outcome c = .started child
  · obtain ⟨child, ho⟩ := hstarted
    have hhead := head?_spawns_iff.2 ho
    cases he : child.ending with
    | overrun =>
      rw [command_overrun ho he]
      refine ⟨_, rfl, ?_⟩
      rw [← Child.lastEvents_of_overrun he]
      exact .process hhead (.aside rfl .nil)
    | cancelled =>
      rw [command_cancelled ho he]
      refine ⟨_, rfl, ?_⟩
      rw [← Child.lastEvents_of_cancelled he, ← List.append_nil child.lastEvents]
      exact .process hhead .nil
    | exited code stdout stderr =>
      obtain ⟨asides, hasides, htrace, hspawns⟩ := command_exited ho he budget
      refine ⟨_, htrace, ?_⟩
      rw [hspawns, ← List.singleton_append (l := asides), ← Child.lastEvents_of_exited he]
      exact .process hhead (.of_asides hasides)
  · have hnot : ∀ child, h.outcome c ≠ .started child := fun child ho => hstarted ⟨child, ho⟩
    rw [command_refused hnot]
    exact ⟨_, rfl, .refused (fun child hhead => hnot child (head?_spawns_iff.1 hhead)) .nil⟩

end Work

end Run

end ContractBuild
