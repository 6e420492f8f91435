import ContractBuild.Host.Process
import ContractBuild.Proofs.Files.Operations

/-!
# Running commands

What a command does to the host, and how it can end. Each command takes exactly one outcome from
those that are to come, and all that it changes in the files is what its process writes.

Main statements: `Run.command_ends` lists the ends of a command, and `Run.command_ran` says what the
host is like after it, whatever the end is. `Run.Preserves` carries a property of the files through
work on the host, if all processes that are started are as the predicate `T` tells; it is closed
under the ways to combine work.
-/

set_option autoImplicit false

namespace ContractBuild

/-! ## Readings -/

namespace Readings

variable {α : Type}

/-- All readings that can come. -/
def values (r : Readings α) : List α :=
  r.current :: r.later

theorem next_mem (r : Readings α) : r.next.1 ∈ r.values := by
  obtain ⟨current, later⟩ := r
  cases later <;> exact List.mem_cons_self

theorem next_values (r : Readings α) : r.next.2.values ⊆ r.values := by
  obtain ⟨current, later⟩ := r
  cases later with
  | nil => exact List.Subset.refl _
  | cons a rest => exact List.subset_cons_self _ _

end Readings

/-! ## Starts -/

/-- The command and the files, if the event is that a process was to be started. -/
def Event.start? : Event → Option (Command × Files)
  | spawned c f => some (c, f)
  | _ => none

/-- The processes that were to be started, in turn. -/
def Event.starts (events : List Event) : List (Command × Files) :=
  events.filterMap start?

theorem Event.starts_append (es es' : List Event) : starts (es ++ es') = starts es ++ starts es' :=
  List.filterMap_append

namespace Host

/-- What comes of the next process, if it is started with this command. -/
def outcome (h : Host) (c : Command) : Spawn :=
  h.spawns.headD (.refused (programMissing c.program))

/-- The files once the next process has written, if it is started with this command. -/
def filesAfter (h : Host) (c : Command) : Files :=
  match h.outcome c with
  | .started child => FileRun.plantAll (c.directory.getD Path.here) child.writes h.files
  | _ => h.files

/-- The host `h'` comes after `h`, with these starts on the way, these files and these outcomes to
come. Only times have been read and events noted besides. -/
structure Went (h : Host) (starts : List (Command × Files)) (files : Files) (spawns : List Spawn)
    (h' : Host) : Prop where
  files : h'.files = files
  spawns : h'.spawns = spawns
  ticker : h'.ticker = h.ticker
  token : h'.token = h.token
  times : h'.times.values ⊆ h.times.values
  trace : ∃ events, h'.trace = h.trace ++ events ∧ Event.starts events = starts

/-- Nothing on the host has changed but the times and the trace, and nothing was started. -/
abbrev Noted (h h' : Host) : Prop :=
  h.Went [] h.files h.spawns h'

/-- The host after a process was to be started with the command. -/
abbrev Ran (c : Command) (h h' : Host) : Prop :=
  h.Went [(c, h.files)] (h.filesAfter c) h.spawns.tail h'

theorem Went.trans {h h' h'' : Host} {starts starts' : List (Command × Files)} {f f' : Files}
    {spawns spawns' : List Spawn} (h₁ : h.Went starts f spawns h')
    (h₂ : h'.Went starts' f' spawns' h'') : h.Went (starts ++ starts') f' spawns' h'' := by
  obtain ⟨e₁, ht₁, hs₁⟩ := h₁.trace
  obtain ⟨e₂, ht₂, hs₂⟩ := h₂.trace
  refine ⟨h₂.files, h₂.spawns, h₂.ticker.trans h₁.ticker, h₂.token.trans h₁.token,
    List.Subset.trans h₂.times h₁.times, e₁ ++ e₂, by rw [ht₂, ht₁, List.append_assoc], ?_⟩
  rw [Event.starts_append, hs₁, hs₂]

theorem Noted.refl (h : Host) : h.Noted h :=
  ⟨rfl, rfl, rfl, rfl, List.Subset.refl _, [], (List.append_nil _).symm, rfl⟩

theorem Noted.trans {h h' h'' : Host} (h₁ : h.Noted h') (h₂ : h'.Noted h'') : h.Noted h'' := by
  rw [Noted, ← h₁.files, ← h₁.spawns]
  exact Went.trans h₁ h₂

theorem Ran.noted {c : Command} {h h' h'' : Host} (hr : h.Ran c h') (hn : h'.Noted h'') :
    h.Ran c h'' := by
  have := Went.trans hr hn
  rwa [hr.files, hr.spawns, List.append_nil] at this

theorem Noted.ran {c : Command} {h h' h'' : Host} (hn : h.Noted h') (hr : h'.Ran c h'') :
    h.Ran c h'' := by
  have := Went.trans hn hr
  have hout : h'.filesAfter c = h.filesAfter c := by
    simp only [filesAfter, outcome, hn.files, hn.spawns]
  rwa [hn.files, hn.spawns, hout, List.nil_append] at this

end Host

namespace Run

/-! ## The ends of a command -/

/-- How a command ends, by what comes of its process. -/
inductive CommandEnds (c : Command) (budget : Binary64) (h : Host) :
    Except Failure TimedOutput → Prop
  | refused {e : OsError} : h.outcome c = .refused e → CommandEnds c budget h (.error (.os e))
  | interrupted : h.outcome c = .interrupted → CommandEnds c budget h (.error .interrupted)
  | overrun {child : Child} : h.outcome c = .started child → child.ending = .overrun →
      CommandEnds c budget h (.error (.overrun ⟨c.stage, budget⟩))
  | cancelled {child : Child} : h.outcome c = .started child → child.ending = .cancelled →
      CommandEnds c budget h (.error .cancelled)
  | unmeasured {child : Child} {code : Int} {stdout stderr : Bytes} {start finish : Timestamp}
      {e : FloatOverflow} :
      h.outcome c = .started child → child.ending = .exited code stdout stderr →
      start ∈ h.times.values → finish ∈ h.times.values → start.secondsTo finish = .error e →
      CommandEnds c budget h (.error (.float e))
  | exited {child : Child} {code : Int} {stdout stderr : Bytes} {duration : Binary64} :
      h.outcome c = .started child → child.ending = .exited code stdout stderr →
      CommandEnds c budget h
        (.ok ⟨⟨code, Text.decodeLossy stdout, Text.decodeLossy stderr⟩, duration⟩)

theorem on_nextSpawn (c : Command) (h : Host) :
    (nextSpawn c).on h = (.ok (h.outcome c), { h with spawns := h.spawns.tail }) := by
  obtain ⟨files, ticker, token, spawns, replies, times, trace⟩ := h
  cases spawns <;> rfl

theorem on_spawn (c : Command) (h : Host) :
    (spawn c).on h = (match h.outcome c with
      | .refused e => .error (.os e)
      | .interrupted => .error .interrupted
      | .started child => .ok child,
      { h with
        files := h.filesAfter c
        spawns := h.spawns.tail
        trace := h.trace ++ [.spawned c h.files] }) := by
  simp only [spawn, on_bind, on_get, on_note, on_nextSpawn, Host.filesAfter]
  have hsame : Host.outcome { h with trace := h.trace ++ [.spawned c h.files] } c = h.outcome c :=
    rfl
  rw [hsame]
  cases h.outcome c with
  | refused e => rfl
  | interrupted => rfl
  | started child => rfl

/-- A process is started, or it is not; its outcome is used up in any case. -/
theorem ran_spawn (c : Command) (h : Host) :
    ∃ h', h.Ran c h' ∧ (spawn c).on h = (match h.outcome c with
      | .refused e => .error (.os e)
      | .interrupted => .error .interrupted
      | .started child => .ok child, h') := by
  refine ⟨_, ?_, on_spawn c h⟩
  exact ⟨rfl, rfl, rfl, rfl, List.Subset.refl _, [.spawned c h.files], rfl, rfl⟩

theorem noted_note {e : Event} (he : e.start? = none) (h : Host) :
    ∃ h', (note e).on h = (.ok (), h') ∧ h.Noted h' :=
  ⟨_, rfl, rfl, rfl, rfl, rfl, List.Subset.refl _, [e], rfl, List.filterMap_cons_none he⟩

theorem noted_log (level : LogLevel) (message : Text) (h : Host) :
    ∃ h', (log level message).on h = (.ok (), h') ∧ h.Noted h' :=
  noted_note rfl h

theorem on_log_pure {α : Type} (level : LogLevel) (message : Text) (a : α) (h : Host) :
    ∃ h', (log level message >>= fun _ => pure a).on h = (.ok a, h') ∧ h.Noted h' := by
  obtain ⟨h', hlog, hn⟩ := noted_log level message h
  exact ⟨h', by rw [on_bind_ok hlog, on_pure], hn⟩

theorem noted_log_pure {α : Type} (level : LogLevel) (message : Text) (a : α) (h : Host) :
    h.Noted ((log level message >>= fun _ => pure a).on h).2 := by
  obtain ⟨h', hlog, hn⟩ := on_log_pure level message a h
  rw [hlog]
  exact hn

theorem noted_now (h : Host) :
    ∃ t h', now.on h = (.ok t, h') ∧ t ∈ h.times.values ∧ h.Noted h' :=
  ⟨_, _, rfl, h.times.next_mem, rfl, rfl, rfl, rfl, h.times.next_values, [],
    (List.append_nil _).symm, rfl⟩

theorem noted_killAll (gone ids : List ProcessId) (h : Host) :
    ∃ h', (killAll gone ids).on h = (.ok (), h') ∧ h.Noted h' := by
  induction ids generalizing h with
  | nil => exact ⟨h, rfl, .refl h⟩
  | cons id rest ih =>
    obtain ⟨h₁, hnote, hn₁⟩ := noted_note (e := if id ∈ gone then .foundDead id else .killed id)
      (by split <;> rfl) h
    obtain ⟨h₂, hrest, hn₂⟩ := ih h₁
    exact ⟨h₂, by rw [killAll, on_bind_ok hnote, hrest], hn₁.trans hn₂⟩

theorem noted_killTree (child : Child) (h : Host) :
    ∃ h', (killTree child).on h = (.ok (), h') ∧ h.Noted h' := by
  obtain ⟨h₁, hkill, hn₁⟩ := noted_killAll child.gone child.targets h
  obtain ⟨h₂, hnote, hn₂⟩ := noted_note (e := .waited) rfl h₁
  exact ⟨h₂, by rw [killTree, on_bind_ok hkill, hnote], hn₁.trans hn₂⟩

/-- The end of a command and the host after it. -/
theorem command_spec (c : Command) (budget : Binary64) (h : Host) :
    CommandEnds c budget h ((command c budget).on h).1 ∧
      h.Ran c ((command c budget).on h).2 := by
  obtain ⟨start, h₁, hnow, hstart, hn₁⟩ := noted_now h
  obtain ⟨h₂, hran, hspawn⟩ := ran_spawn c h₁
  have houtcome : h₁.outcome c = h.outcome c := by simp only [Host.outcome, hn₁.spawns]
  have hr₂ := hn₁.ran hran
  rw [houtcome] at hspawn
  rw [command, on_bind_ok hnow]
  cases ho : h.outcome c with
  | refused e =>
    rw [ho] at hspawn
    rw [on_bind_error hspawn]
    exact ⟨.refused ho, hr₂⟩
  | interrupted =>
    rw [ho] at hspawn
    rw [on_bind_error hspawn]
    exact ⟨.interrupted ho, hr₂⟩
  | started child =>
    rw [ho] at hspawn
    rw [on_bind_ok hspawn]
    cases he : child.ending with
    | overrun =>
      obtain ⟨h₃, hkill, hn₃⟩ := noted_killTree child h₂
      obtain ⟨h₄, hlog, hn₄⟩ := noted_log _ _ h₃
      rw [on_bind_ok hkill, on_bind_ok hlog]
      exact ⟨.overrun ho he, (hr₂.noted hn₃).noted hn₄⟩
    | cancelled =>
      obtain ⟨h₃, hkill, hn₃⟩ := noted_killTree child h₂
      rw [on_bind_ok hkill]
      exact ⟨.cancelled ho he, hr₂.noted hn₃⟩
    | exited code stdout stderr =>
      obtain ⟨h₃, hnote, hn₃⟩ := noted_note (e := .exited) rfl h₂
      obtain ⟨finish, h₄, hnow', hfinish, hn₄⟩ := noted_now h₃
      have hr₄ := (hr₂.noted hn₃).noted hn₄
      rw [on_bind_ok hnote, on_bind_ok hnow']
      cases hd : start.secondsTo finish with
      | error e =>
        rw [on_bind_error (on_answer h₄ .float (.error e))]
        exact ⟨.unmeasured ho he hstart (hr₂.times (hn₃.times hfinish)) hd, hr₄⟩
      | ok duration =>
        obtain ⟨time, h₅, hnow'', -, hn₅⟩ := noted_now h₄
        obtain ⟨h₆, hlog, hn₆⟩ := noted_log _ _ h₅
        rw [on_bind_ok (on_answer h₄ .float (.ok duration)), on_bind_ok hnow'', on_bind_ok hlog]
        exact ⟨.exited ho he, (hr₄.noted hn₅).noted hn₆⟩

/-! ## Commands that may fail -/

section TryCommand

variable {c : Command} {budget : Binary64} {h h' : Host} {e : Failure}

theorem on_tryCommand_of_ok {out : TimedOutput} (hrun : (command c budget).on h = (.ok out, h')) :
    (tryCommand c budget).on h = (.ok (.ok out), h') := by
  rw [tryCommand, on_bind_ok (on_attempt_of hrun), on_pure]

theorem on_tryCommand_of_systemError (hrun : (command c budget).on h = (.error e, h'))
    (he : e.isSystemError = true) : (tryCommand c budget).on h = (.ok (.error e), h') := by
  rw [tryCommand, on_bind_ok (on_attempt_of hrun)]
  simp only [he, if_true, on_pure]

/-- A failure that is none of the system is passed on. -/
theorem on_tryCommand_of_error (hrun : (command c budget).on h = (.error e, h'))
    (he : e.isSystemError = false) : (tryCommand c budget).on h = (.error e, h') := by
  rw [tryCommand, on_bind_ok (on_attempt_of hrun)]
  simp only [he, Bool.false_eq_true, if_false, on_throw]

end TryCommand

end Run

/-! ## Properties of the files -/

namespace Host

/-- The host `h'` comes after `h`: the trace has gone on, and each start has used up an outcome. -/
def Follows (h h' : Host) : Prop :=
  ∃ events, h'.trace = h.trace ++ events ∧
    h'.spawns = h.spawns.drop (Event.starts events).length

/-- The starts between two states of the host, each with its outcome. -/
def startsUntil (h h' : Host) : List ((Command × Files) × Spawn) :=
  (Event.starts (h'.trace.drop h.trace.length)).zip h.spawns

/-- Every process that was started between two states of the host is as `T` tells: the command,
the files at its start and the process. -/
def AllStarted (T : Command → Files → Child → Prop) (h h' : Host) : Prop :=
  ∀ c f child, ((c, f), Spawn.started child) ∈ h.startsUntil h' → T c f child

theorem Follows.refl (h : Host) : h.Follows h :=
  ⟨[], (List.append_nil _).symm, rfl⟩

theorem Follows.trans {h h' h'' : Host} (h₁ : h.Follows h') (h₂ : h'.Follows h'') :
    h.Follows h'' := by
  obtain ⟨e₁, ht₁, hs₁⟩ := h₁
  obtain ⟨e₂, ht₂, hs₂⟩ := h₂
  refine ⟨e₁ ++ e₂, by rw [ht₂, ht₁, List.append_assoc], ?_⟩
  rw [hs₂, hs₁, List.drop_drop, Event.starts_append, List.length_append]

theorem zip_append_left {α β : Type} (l l' : List α) (r : List β) :
    (l ++ l').zip r = l.zip r ++ l'.zip (r.drop l.length) := by
  induction l generalizing r with
  | nil => rfl
  | cons a l ih =>
    cases r with
    | nil => simp
    | cons b r => simp [ih]

/-- The starts on a way are those on its first part and those on its second part. -/
theorem startsUntil_trans {h h' h'' : Host} (h₁ : h.Follows h') (h₂ : h'.Follows h'') :
    h.startsUntil h'' = h.startsUntil h' ++ h'.startsUntil h'' := by
  obtain ⟨e₁, ht₁, hs₁⟩ := h₁
  obtain ⟨e₂, ht₂, -⟩ := h₂
  unfold startsUntil
  have hboth : h''.trace.drop h.trace.length = e₁ ++ e₂ := by
    rw [ht₂, ht₁, List.append_assoc, List.drop_left]
  rw [hboth, ht₂, List.drop_left, ht₁, List.drop_left, hs₁, Event.starts_append,
    zip_append_left]

theorem AllStarted.split {T : Command → Files → Child → Prop} {h h' h'' : Host}
    (hall : h.AllStarted T h'') (h₁ : h.Follows h') (h₂ : h'.Follows h'') :
    h.AllStarted T h' ∧ h'.AllStarted T h'' := by
  unfold AllStarted at *
  rw [startsUntil_trans h₁ h₂] at hall
  exact ⟨fun c f child hmem => hall c f child (List.mem_append_left _ hmem),
    fun c f child hmem => hall c f child (List.mem_append_right _ hmem)⟩

theorem Went.follows {h h' : Host} {starts : List (Command × Files)} {f : Files}
    (hw : h.Went starts f (h.spawns.drop starts.length) h') : h.Follows h' := by
  obtain ⟨events, htrace, rfl⟩ := hw.trace
  exact ⟨events, htrace, hw.spawns⟩

theorem Noted.follows {h h' : Host} (hn : h.Noted h') : h.Follows h' :=
  Went.follows hn

theorem Ran.follows {c : Command} {h h' : Host} (hr : h.Ran c h') : h.Follows h' := by
  rw [Ran, ← List.drop_one] at hr
  exact Went.follows hr

/-- The host `h'` comes after `h`, and no name was drawn on the way. -/
structure Continues (h h' : Host) : Prop where
  follows : h.Follows h'
  ticker : h'.ticker = h.ticker
  token : h'.token = h.token

theorem Continues.trans {h h' h'' : Host} (h₁ : h.Continues h') (h₂ : h'.Continues h'') :
    h.Continues h'' :=
  ⟨h₁.follows.trans h₂.follows, h₂.ticker.trans h₁.ticker, h₂.token.trans h₁.token⟩

theorem Noted.continues {h h' : Host} (hn : h.Noted h') : h.Continues h' :=
  ⟨hn.follows, hn.ticker, hn.token⟩

theorem Ran.continues {c : Command} {h h' : Host} (hr : h.Ran c h') : h.Continues h' :=
  ⟨hr.follows, hr.ticker, hr.token⟩

/-- A process that has been started is among the starts. -/
theorem Ran.mem_startsUntil {c : Command} {h h' : Host} (hr : h.Ran c h') {child : Child}
    (ho : h.outcome c = .started child) :
    ((c, h.files), Spawn.started child) ∈ h.startsUntil h' := by
  obtain ⟨events, htrace, hstarts⟩ := hr.trace
  rw [startsUntil, htrace, List.drop_left, hstarts]
  unfold outcome at ho
  cases hs : h.spawns with
  | nil => rw [hs] at ho; cases ho
  | cons s rest =>
    rw [hs] at ho
    obtain rfl : s = .started child := ho
    exact List.mem_cons_self

end Host

namespace Run

variable {α β : Type} {T : Command → Files → Child → Prop} {P : Files → Prop}

/-- If all processes that are started are as `T` tells, the work keeps the property of the files,
on every way out of it. -/
structure Preserves (T : Command → Files → Child → Prop) (P : Files → Prop) (work : Run α) :
    Prop where
  continues : ∀ h : Host, h.Continues (work.on h).2
  files : ∀ h : Host, h.AllStarted T (work.on h).2 → P h.files → P (work.on h).2.files

theorem preserves_noted {work : Run α} (hw : ∀ h : Host, h.Noted (work.on h).2) :
    Preserves T P work :=
  ⟨fun h => (hw h).continues, fun h _ hP => by rw [(hw h).files]; exact hP⟩

theorem preserves_pure (a : α) : Preserves T P (pure a) :=
  preserves_noted fun h => .refl h

theorem preserves_throw (e : Failure) : Preserves T P (throw e : Run α) :=
  preserves_noted fun h => .refl h

theorem preserves_answer {ε : Type} (cause : ε → Failure) (r : Except ε α) :
    Preserves T P (answer cause r) :=
  preserves_noted fun h => by rw [on_answer]; exact .refl h

theorem preserves_ask (question : Files → Except FileError α) : Preserves T P (ask question) :=
  preserves_noted fun h => by rw [on_ask]; exact .refl h

theorem preserves_log (level : LogLevel) (message : Text) : Preserves T P (log level message) := by
  refine preserves_noted fun h => ?_
  obtain ⟨h', hlog, hn⟩ := noted_log level message h
  rw [hlog]
  exact hn

theorem Preserves.bind {work : Run α} {next : α → Run β} (hw : Preserves T P work)
    (hnext : ∀ a, Preserves T P (next a)) : Preserves T P (work >>= next) := by
  have key : ∀ h : Host, h.Continues ((work >>= next).on h).2 ∧
      (h.AllStarted T ((work >>= next).on h).2 → P h.files →
        P ((work >>= next).on h).2.files) := by
    intro h
    have hf := hw.continues h
    have hP := hw.files h
    cases hr : work.on h with
    | mk r h' =>
      rw [hr] at hf hP
      cases r with
      | error e =>
        rw [on_bind_error hr]
        exact ⟨hf, hP⟩
      | ok a =>
        rw [on_bind_ok hr]
        have hf' := (hnext a).continues h'
        refine ⟨hf.trans hf', fun hall hfiles => ?_⟩
        obtain ⟨hall₁, hall₂⟩ := hall.split hf.follows hf'.follows
        exact (hnext a).files h' hall₂ (hP hall₁ hfiles)
  exact ⟨fun h => (key h).1, fun h => (key h).2⟩

theorem Preserves.attempt {work : Run α} (hw : Preserves T P work) :
    Preserves T P (attempt work) :=
  ⟨fun h => hw.continues h, fun h => hw.files h⟩

/-- A command keeps what every process that it may start keeps with its writes. -/
theorem preserves_command {c : Command} (budget : Binary64)
    (hc : ∀ f child, P f → T c f child →
      P (FileRun.plantAll (c.directory.getD Path.here) child.writes f)) :
    Preserves T P (command c budget) := by
  refine ⟨fun h => (command_spec c budget h).2.continues, fun h hall hP => ?_⟩
  have hran := (command_spec c budget h).2
  rw [hran.files, Host.filesAfter]
  split
  · rename_i child ho
    exact hc _ _ hP (hall _ _ _ (hran.mem_startsUntil ho))
  · exact hP

theorem preserves_tryCommand {c : Command} {budget : Binary64}
    (hc : Preserves T P (command c budget)) : Preserves T P (tryCommand c budget) := by
  refine hc.attempt.bind fun r => ?_
  cases r with
  | ok out => exact preserves_pure _
  | error e =>
    cases he : e.isSystemError with
    | true => simp only [he, if_true]; exact preserves_pure _
    | false => simp only [he, Bool.false_eq_true, if_false]; exact preserves_throw e

end Run

end ContractBuild
