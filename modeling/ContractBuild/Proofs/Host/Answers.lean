import ContractBuild.Proofs.Host.Supervision

/-!
# What work posts, what it yields and why it fails

Three predicates on work on the host, with the lemmas for the ways to combine work. `Run.Posts`
tells which requests it posts, on every way out of it; `Run.Yields` tells of the values it returns,
if it returns; `Run.Fails` tells of the failures it ends in, if it does not.
-/

set_option autoImplicit false

namespace ContractBuild

/-! ## Requests -/

/-- The request, if the event is that one was posted. -/
def Event.post? : Event → Option Request
  | posted r => some r
  | _ => none

/-- The requests that were posted, in turn. -/
def Event.posts (events : List Event) : List Request :=
  events.filterMap post?

theorem Event.posts_append (es es' : List Event) : posts (es ++ es') = posts es ++ posts es' :=
  List.filterMap_append

namespace Run

variable {α β : Type}

/-- The work posts these requests, on every way out of it. -/
def Posts (requests : List Request) (work : Run α) : Prop :=
  ∀ h : Host, ∃ events, (work.on h).2.trace = h.trace ++ events ∧ Event.posts events = requests

theorem posts_note (e : Event) : Posts e.post?.toList (note e) := by
  intro h
  refine ⟨[e], rfl, ?_⟩
  cases e <;> rfl

theorem posts_of_trace {work : Run α} (hw : ∀ h : Host, (work.on h).2.trace = h.trace) :
    Posts [] work :=
  fun h => ⟨[], by rw [hw h, List.append_nil], rfl⟩

theorem posts_log (level : LogLevel) (message : Text) : Posts [] (log level message) :=
  posts_note (.logged level message)

/-- What comes after the requests posts none. -/
theorem Posts.bind {requests : List Request} {work : Run α} {next : α → Run β}
    (hw : Posts requests work) (hnext : ∀ a, Posts [] (next a)) :
    Posts requests (work >>= next) := by
  intro h
  obtain ⟨events, htrace, hposts⟩ := hw h
  cases hr : work.on h with
  | mk r h₁ =>
    rw [hr] at htrace
    cases r with
    | error e =>
      rw [on_bind_error hr]
      exact ⟨events, htrace, hposts⟩
    | ok a =>
      rw [on_bind_ok hr]
      obtain ⟨events', htrace', hposts'⟩ := hnext a h₁
      refine ⟨events ++ events', by rw [htrace', htrace, List.append_assoc], ?_⟩
      rw [Event.posts_append, hposts, hposts', List.append_nil]

/-- Work whose events are settled posts nothing. -/
theorem Settles.posts {work : Run α} (hw : Settles work) : Posts [] work := by
  intro h
  obtain ⟨events, htrace, hsettled⟩ := hw h
  refine ⟨events, htrace, List.filterMap_eq_nil_iff.2 fun e he => ?_⟩
  cases e with
  | posted r => exact absurd he (hsettled.not_posted r)
  | _ => rfl

end Run

/-! ## Values -/

namespace Run

variable {α β : Type} {P : α → Prop} {R : β → Prop}

/-- Where the work returns a value, the value has the property. -/
def Yields (P : α → Prop) (work : Run α) : Prop :=
  ∀ (h : Host) a h', work.on h = (.ok a, h') → P a

theorem yields_pure {a : α} (ha : P a) : Yields P (pure a) := by
  intro h b h' hr
  cases hr
  exact ha

theorem yields_throw (e : Failure) : Yields P (throw e : Run α) := by
  intro h a h' hr
  cases hr

theorem yields_answer {ε : Type} {cause : ε → Failure} {r : Except ε α}
    (hr : ∀ a, r = .ok a → P a) : Yields P (answer cause r) := by
  cases r with
  | ok a => exact yields_pure (hr a rfl)
  | error e => exact yields_throw _

theorem yields_attempt {work : Run α} (hw : Yields P work) :
    Yields (fun r => ∀ a, r = .ok a → P a) (attempt work) := by
  intro h r h' hr a ha
  subst ha
  rw [on_attempt] at hr
  obtain ⟨hanswer, hhost⟩ := Prod.mk.inj hr
  exact hw h a h' (Prod.ext (Except.ok.inj hanswer) hhost)

/-- What the first work yields can be used in the second. -/
theorem Yields.bind {work : Run β} {next : β → Run α} (hw : Yields R work)
    (hnext : ∀ b, R b → Yields P (next b)) : Yields P (work >>= next) := by
  intro h a h' hr
  cases hwork : work.on h with
  | mk r h₁ =>
    cases r with
    | error e =>
      rw [on_bind_error hwork] at hr
      cases hr
    | ok b =>
      rw [on_bind_ok hwork] at hr
      exact hnext b (hw h b h₁ hwork) h₁ a h' hr

theorem Yields.mono {P' : α → Prop} {work : Run α} (hw : Yields P work) (hp : ∀ a, P a → P' a) :
    Yields P' work :=
  fun h a h' hr => hp a (hw h a h' hr)

/-- What comes last decides. -/
theorem yields_last {work : Run β} {next : β → Run α} (hnext : ∀ b, Yields P (next b)) :
    Yields P (work >>= next) :=
  Yields.bind (R := fun _ => True) (fun _ _ _ _ => trivial) fun b _ => hnext b

end Run

/-! ## Failures -/

namespace Run

variable {α β : Type} {R : β → Prop} {Q : Failure → Prop}

/-- Where the work returns no value, the failure has the property. -/
def Fails (Q : Failure → Prop) (work : Run α) : Prop :=
  ∀ (h : Host) e h', work.on h = (.error e, h') → Q e

/-- Work that always returns has no failure. -/
theorem fails_of_returns {work : Run α} (hw : ∀ h : Host, ∃ a, (work.on h).1 = .ok a) :
    Fails Q work := by
  intro h e h' hr
  obtain ⟨a, ha⟩ := hw h
  rw [hr] at ha
  cases ha

theorem fails_pure (a : α) : Fails Q (pure a) :=
  fails_of_returns fun _ => ⟨a, rfl⟩

theorem fails_attempt (work : Run α) : Fails Q (attempt work) :=
  fails_of_returns fun h => ⟨(work.on h).1, rfl⟩

theorem fails_log (level : LogLevel) (message : Text) : Fails Q (log level message) :=
  fails_of_returns fun _ => ⟨(), rfl⟩

theorem fails_throw {e : Failure} (he : Q e) : Fails Q (throw e : Run α) := by
  intro h e' h' hr
  cases hr
  exact he

theorem fails_answer {ε : Type} {cause : ε → Failure} {r : Except ε α}
    (hr : ∀ e, r = .error e → Q (cause e)) : Fails Q (answer cause r) := by
  cases r with
  | ok a => exact fails_pure a
  | error e => exact fails_throw (hr e rfl)

/-- A failure of the work is one of the first part, or of what comes after a value of it. -/
theorem Fails.bind {work : Run β} {next : β → Run α} (hw : Fails Q work) (hy : Yields R work)
    (hnext : ∀ b, R b → Fails Q (next b)) : Fails Q (work >>= next) := by
  intro h e h' hr
  cases hwork : work.on h with
  | mk r h₁ =>
    cases r with
    | error e' =>
      rw [on_bind_error hwork] at hr
      cases hr
      exact hw h _ _ hwork
    | ok b =>
      rw [on_bind_ok hwork] at hr
      exact hnext b (hy h b h₁ hwork) h₁ e h' hr

/-- Two parts fail as each of them does. -/
theorem Fails.andThen {work : Run β} {next : β → Run α} (hw : Fails Q work)
    (hnext : ∀ b, Fails Q (next b)) : Fails Q (work >>= next) :=
  hw.bind (R := fun _ => True) (fun _ _ _ _ => trivial) fun b _ => hnext b

/-- The failure of attempted work is the value. -/
theorem Fails.yields_attempt {work : Run α} (hw : Fails Q work) :
    Yields (fun r => ∀ e, r = .error e → Q e) (attempt work) := by
  intro h r h' hr e he
  subst he
  rw [on_attempt] at hr
  obtain ⟨hanswer, hhost⟩ := Prod.mk.inj hr
  exact hw h e h' (Prod.ext (Except.ok.inj hanswer) hhost)

/-- A caught failure is handled, so that only the failures of the handler are left. -/
theorem Fails.tryCatch {R : Failure → Prop} {work : Run α} {handler : Failure → Run α}
    (hw : Fails R work) (hhandler : ∀ e, R e → Fails Q (handler e)) :
    Fails Q (MonadExcept.tryCatch work handler) := by
  intro h e h' hr
  cases hwork : work.on h with
  | mk r h₁ =>
    have hcaught := on_tryCatch h work handler
    rw [hwork] at hcaught
    cases r with
    | ok a => rw [hcaught] at hr; cases hr
    | error e' => rw [hcaught] at hr; exact hhandler e' (hw h e' h₁ hwork) h₁ e h' hr

theorem fails_ask {question : Files → Except FileError α} (hq : ∀ e, Q (.file e)) :
    Fails Q (ask question) := by
  intro h e h' hr
  rw [on_ask] at hr
  cases hanswer : question h.files with
  | ok a => rw [hanswer] at hr; cases hr
  | error fault => rw [hanswer] at hr; cases hr; exact hq fault

theorem fails_onFiles {work : FileRun α} (hq : ∀ e, Q (.file e)) : Fails Q (onFiles work) := by
  intro h e h' hr
  rw [on_onFiles] at hr
  cases hanswer : ((ExceptT.run work).run h.files).1 with
  | ok a => rw [hanswer] at hr; cases hr
  | error fault => rw [hanswer] at hr; cases hr; exact hq fault

end Run

end ContractBuild
