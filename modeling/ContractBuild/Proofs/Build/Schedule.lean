import ContractBuild.Proofs.Build.Totality
import Mathlib.Data.List.Nodup

/-!
# The order of the commands

Which commands a compilation tries to start, and what is on the host when it does. The schedule is a
function of the files and of the outcomes of the processes, taken step by step like the decision:
each step comes only after the steps before it have passed (`Toolchain.schedule`).

Main statements: a compilation starts exactly what is scheduled, on every way out of it
(`Toolchain.tries_compile`). So the commands come in one order and each at most once, the first one
in a workspace finds nothing but the manifest and the source in it, and no command comes after a
step that failed (`Toolchain.commands_in_order`).
-/

set_option autoImplicit false

namespace ContractBuild

/-! ## Starts on the way -/

namespace Host

/-- On the way from `h` to `h'` these processes were to be started. -/
def Tries (h : Host) (starts : List (Command × Files)) (h' : Host) : Prop :=
  ∃ events, h'.trace = h.trace ++ events ∧ Event.starts events = starts

theorem Went.tries {h h' : Host} {starts : List (Command × Files)} {f : Files}
    {spawns : List Spawn} (hw : h.Went starts f spawns h') : h.Tries starts h' :=
  hw.trace

theorem Tries.trans {h h' h'' : Host} {starts starts' : List (Command × Files)}
    (h₁ : h.Tries starts h') (h₂ : h'.Tries starts' h'') : h.Tries (starts ++ starts') h'' := by
  obtain ⟨events, htrace, rfl⟩ := h₁
  obtain ⟨events', htrace', rfl⟩ := h₂
  exact ⟨events ++ events', by rw [htrace', htrace, List.append_assoc], Event.starts_append _ _⟩

/-- What comes after the starts, and starts nothing, adds nothing to them. -/
theorem Tries.still {h h' h'' : Host} {starts : List (Command × Files)} (h₁ : h.Tries starts h')
    (h₂ : h'.Tries [] h'') : h.Tries starts h'' := by
  have hboth := h₁.trans h₂
  rwa [List.append_nil] at hboth

theorem Tries.noted {h h' h'' : Host} {starts : List (Command × Files)} (h₁ : h.Tries starts h')
    (hn : h'.Noted h'') : h.Tries starts h'' :=
  h₁.still hn.tries

theorem Noted.followed {h h' h'' : Host} {starts : List (Command × Files)} (hn : h.Noted h')
    (h₁ : h'.Tries starts h'') : h.Tries starts h'' :=
  hn.tries.trans h₁

end Host

namespace Run

variable {α β : Type}

/-- What comes after the starts only notes things. -/
theorem tries_bind {work : Run α} {next : α → Run β} {h : Host} {starts : List (Command × Files)}
    (hw : h.Tries starts (work.on h).2) (hnext : ∀ a (h₁ : Host), h₁.Noted ((next a).on h₁).2) :
    h.Tries starts ((work >>= next).on h).2 := by
  cases hr : work.on h with
  | mk r h₁ =>
    rw [hr] at hw
    cases r with
    | error e =>
      rw [on_bind_error hr]
      exact hw
    | ok a =>
      rw [on_bind_ok hr]
      exact hw.noted (hnext a h₁)

theorem tries_command (c : Command) (budget : Binary64) (h : Host) :
    h.Tries [(c, h.files)] ((command c budget).on h).2 :=
  (command_spec c budget h).2.tries

theorem tries_tryCommand (c : Command) (budget : Binary64) (h : Host) :
    h.Tries [(c, h.files)] ((tryCommand c budget).on h).2 := by
  have hattempt : h.Tries [(c, h.files)] ((attempt (command c budget)).on h).2 :=
    tries_command c budget h
  refine tries_bind hattempt fun r h₁ => ?_
  cases r with
  | ok out => exact .refl h₁
  | error e =>
    cases he : e.isSystemError with
    | true => simp only [he, if_true]; exact .refl h₁
    | false => simp only [he, Bool.false_eq_true, if_false]; exact .refl h₁

end Run

namespace Workspace

section Within

variable {α : Type} {parent : Path} {project source template : Text} {h : Host} {g : Files}
  (work : Workspace → Run α)

theorem tries_drawn (h : Host) (g : Files) : h.Tries [] (drawn h g) :=
  ⟨[], (List.append_nil _).symm, rfl⟩

/-- Without a workspace nothing is started. -/
theorem tries_within_of_error {e : Failure}
    (hf : (named parent project h).filling source template h.files = (.error e, g)) :
    h.Tries [] ((within parent project source template work).on h).2 := by
  rw [within_of_error work hf]
  exact (tries_drawn h g).still (noted_release _ _).tries

/-- In a workspace the starts are those of the work: neither making it nor removing it starts
anything. -/
theorem tries_within_of_ok {starts : List (Command × Files)}
    (hf : (named parent project h).filling source template h.files = (.ok (), g))
    (hwork : ∀ h₁, (drawn h g).Noted h₁ →
      h₁.Tries starts ((work (named parent project h)).on h₁).2) :
    h.Tries starts ((within parent project source template work).on h).2 := by
  obtain ⟨h₁, hn, hwithin⟩ := within_of_ok work hf
  rw [hwithin]
  exact (((tries_drawn h g).noted hn).trans (hwork h₁ hn)).still (noted_release _ _).tries

end Within

end Workspace

namespace Toolchain

open Files Run Workspace

/-! ## The schedule -/

/-- A stage is its command, and what comes later only if no errors are reported. -/
def scheduleStage (label : Text) (c : Command) (budget : Binary64) (o : Spawn) (f : Files)
    (later : List (Command × Files)) : List (Command × Files) :=
  (c, f) ::
    match reportOf label c budget o with
    | .ok ⟨[], _⟩ => later
    | _ => []

section Steps

variable (s : Settings) (h : Host) (w : Workspace)

/-- With an artifact the interface is asked for and then the gas, unless the first question is
cancelled or interrupted. -/
def scheduleQuestions (f : Files) : List (Command × Files) :=
  (abiCommand s w, f) ::
    match optionOf spokenText (abiCommand s w) s.abiTimeout (outcomeAt s h 3) with
    | .ok _ => [(gasCommand s w, written w.root (outcomeAt s h 3) f)]
    | .error _ => []

/-- After the build the artifact has to be there, and must not be empty. -/
def scheduleArtifact (f : Files) : List (Command × Files) :=
  match f.find? w.artifactPath with
  | .ok (some (.file (_ :: _))) => scheduleQuestions s h w f
  | _ => []

/-- After the build comes the artifact. -/
def scheduleBuild (f : Files) : List (Command × Files) :=
  scheduleStage "cargo build" (buildCommand s w) s.buildTimeout (outcomeAt s h 2) f
    (scheduleArtifact s h w (written w.root (outcomeAt s h 2) f))

/-- After the check comes the build. -/
def scheduleCheck (f : Files) : List (Command × Files) :=
  scheduleStage "cargo stylus check" (checkCommand s w) s.checkTimeout (outcomeAt s h 1) f
    (scheduleBuild s h w (written w.root (outcomeAt s h 1) f))

/-- The workspace has to be made. -/
def scheduleWorkspace (source : Text) (f : Files) : List (Command × Files) :=
  match w.filling source Manifest.contract f with
  | (.ok (), g) => scheduleCheck s h w g
  | (.error _, _) => []

end Steps

/-- What a compilation starts, with the files at the start. The contract tool has to answer. -/
def schedule (s : Settings) (source project : Text) (h : Host) : List (Command × Files) :=
  (versionCommand s, h.files) ::
    match optionOf spokenText (versionCommand s) s.probeTimeout (outcomeAt s h 0) with
    | .ok (some _) =>
      scheduleWorkspace s h (named s.tempRoot project h) source
        (written Path.here (outcomeAt s h 0) h.files)
    | _ => []

/-! ## The starts of a compilation -/

section Steps

variable {s : Settings} {h h' : Host} {w : Workspace} {f : Files}

theorem tries_version (h' : Host) :
    h'.Tries [(versionCommand s, h'.files)] ((version s).on h').2 := by
  refine tries_bind (tries_tryCommand _ _ h') fun r h₁ => ?_
  cases r with
  | ok out => exact .refl h₁
  | error e => exact noted_log_pure _ _ _ h₁

theorem tries_abi (h' : Host) : h'.Tries [(abiCommand s w, h'.files)] ((abi s w).on h').2 := by
  refine tries_bind (tries_tryCommand _ _ h') fun r h₁ => ?_
  cases r with
  | error e => exact noted_log_pure _ _ _ h₁
  | ok out =>
    simp only
    split
    · exact noted_log_pure _ _ _ h₁
    · exact .refl h₁

theorem tries_gas (h' : Host) : h'.Tries [(gasCommand s w, h'.files)] ((gas s w).on h').2 := by
  refine tries_bind (tries_tryCommand _ _ h') fun r h₁ => ?_
  cases r with
  | error e => exact noted_log_pure _ _ _ h₁
  | ok out => exact .refl h₁

theorem tries_report (c : Command) (budget : Binary64) (label : Text) (h' : Host) :
    h'.Tries [(c, h'.files)] ((Run.command c budget >>= interpret label).on h').2 := by
  refine tries_bind (tries_command c budget h') fun out h₁ => ?_
  rw [interpret, on_answer]
  exact .refl h₁

variable (hr : h.HasRealTimes)

include hr

theorem tries_package (hu : Used h 3 f h') (warnings : List Diagnostic) {bytes : Bytes}
    (hb : bytes ≠ []) :
    h'.Tries (scheduleQuestions s h w f) ((package s w warnings bytes hb).on h').2 := by
  obtain ⟨r, h₁, habi, hu₁, hanswer⟩ := abi_used (s := s) (w := w) hu
  have htries := tries_abi (s := s) (w := w) h'
  rw [habi, hu.files] at htries
  -- the schedule turns as the answer does, since the times can be measured
  rw [package, scheduleQuestions, ← hanswer.resolve_right (not_unmeasured hr)]
  cases r with
  | error e =>
    rw [on_bind_error habi]
    exact htries
  | ok abi =>
    rw [on_bind_ok habi, ← hu₁.files]
    exact htries.trans (tries_bind (tries_gas h₁) fun _ h₂ => noted_log_pure _ _ _ h₂)

theorem tries_finish (hu : Used h 3 f h') (warnings : List Diagnostic) :
    h'.Tries (scheduleArtifact s h w f) ((finish s w warnings).on h').2 := by
  have hartifact := on_artifact w h'
  rw [hu.files] at hartifact
  have hmissing : (artifact w).on h' = (.ok [], h') →
      h'.Tries [] ((finish s w warnings).on h').2 := by
    intro hbytes
    obtain ⟨h₁, hlog, hn⟩ := noted_log .error
      ("Artifact missing or empty at " ++ w.artifactPath.text) h'
    rw [finish, on_bind_ok hbytes]
    simp only
    rw [on_bind_ok hlog]
    refine hn.followed (tries_bind ?_ fun _ h₂ => .refl h₂)
    rw [on_ask]
    exact (Host.Noted.refl h₁).tries
  unfold scheduleArtifact
  cases hf : f.find? w.artifactPath with
  | error e =>
    rw [hf] at hartifact
    rw [finish, on_bind_error hartifact]
    exact (Host.Noted.refl h').tries
  | ok entry =>
    rw [hf] at hartifact
    -- every entry but a file with content counts as no artifact
    rcases entry with _ | _ | (_ | ⟨b, bytes⟩) | target
    · exact hmissing hartifact
    · exact hmissing hartifact
    · exact hmissing hartifact
    · rw [finish, on_bind_ok hartifact]
      exact tries_package hr hu warnings _
    · exact hmissing hartifact

/-- A stage starts what is scheduled, if it only notes the errors that are reported and goes on
without them. -/
theorem tries_stage {n : Nat} (hu : Used h n f h') {c : Command} (hc : c.program = s.cargo)
    (budget : Binary64) (label : Text) {next : StageReport → Run BuildResult}
    {later : List (Command × Files)}
    (hfailed : ∀ e errors others (h₁ : Host),
      h₁.Noted ((next ⟨e :: errors, others⟩).on h₁).2)
    (hclean : ∀ others (h₁ : Host),
      Used h (n + 1) (written (c.directory.getD Path.here) (outcomeAt s h n) f) h₁ →
        h₁.Tries later ((next ⟨[], others⟩).on h₁).2) :
    h'.Tries (scheduleStage label c budget (outcomeAt s h n) f later)
      ((do
        let out ← Run.command c budget
        let report ← interpret label out
        next report).on h').2 := by
  obtain ⟨r, h₁, hreport, hu₁, hanswer⟩ := report_used hu hc budget label
  have htries := tries_report c budget label h'
  rw [hreport, hu.files] at htries
  rw [scheduleStage, ← bind_assoc, ← hanswer.resolve_right (not_unmeasured hr)]
  match r with
  | .error e =>
    rw [on_bind_error hreport]
    exact htries
  | .ok ⟨e :: errors, others⟩ =>
    rw [on_bind_ok hreport]
    exact htries.noted (hfailed e errors others h₁)
  | .ok ⟨[], others⟩ =>
    rw [on_bind_ok hreport]
    exact htries.trans (hclean others h₁ hu₁)

theorem tries_build (hu : Used h 2 f h') (warnings : List Diagnostic) :
    h'.Tries (scheduleBuild s h w f) ((build s w warnings).on h').2 :=
  tries_stage hr hu rfl s.buildTimeout "cargo build" (fun _ _ _ h₁ => noted_log_pure _ _ _ h₁)
    fun _ _ hu₁ => tries_finish hr hu₁ _

theorem tries_stages (hu : Used h 1 f h') :
    h'.Tries (scheduleCheck s h w f) ((stages s w).on h').2 :=
  tries_stage hr hu rfl s.checkTimeout "cargo stylus check"
    (fun _ _ _ h₁ => noted_log_pure _ _ _ h₁) fun _ _ hu₁ => tries_build hr hu₁ _

theorem tries_within (hu : Used h 1 f h') (source project : Text) :
    h'.Tries (scheduleWorkspace s h (named s.tempRoot project h') source f)
      ((within s.tempRoot project source Manifest.contract (stages s)).on h').2 := by
  unfold scheduleWorkspace
  rw [← hu.files]
  cases hf : (named s.tempRoot project h').filling source Manifest.contract h'.files with
  | mk r g =>
    cases r with
    | error e => exact tries_within_of_error (stages s) hf
    | ok =>
      refine tries_within_of_ok (stages s) hf fun h₁ hn => ?_
      have hu₁ : Used h 1 g h₁ := hu.filled hn
      exact tries_stages hr hu₁

/-- A compilation starts what is scheduled, on every way out of it. -/
theorem tries_compile (source project : Text) :
    h.Tries (schedule s source project h) ((compile s source project).on h).2 := by
  have hu : Used h 0 h.files h := ⟨rfl, rfl, List.Subset.refl _⟩
  obtain ⟨r, h₁, hversion, hu₁, hanswer⟩ := version_used (s := s) hu
  have htries := tries_version (s := s) h
  have hnamed := named_after_version (s := s) s.tempRoot project h
  rw [hversion] at htries hnamed
  rw [schedule, ← hanswer.resolve_right (not_unmeasured hr), on_compile hversion]
  match r with
  | .error e => exact htries
  | .ok none => exact htries.noted (noted_toolMissing h₁)
  | .ok (some v) =>
    have hwithin := tries_within (s := s) hr hu₁ source project
    rw [hnamed] at hwithin
    exact (htries.trans hwithin).noted (noted_compileEnd _ _)

end Steps

/-! ## Commands in order -/

/-- The commands of a compilation, in their order. -/
def commands (s : Settings) (w : Workspace) : List Command :=
  [versionCommand s, checkCommand s w, buildCommand s w, abiCommand s w, gasCommand s w]

/-- The files before anything is made for a compilation: its probe has run. -/
def probed (s : Settings) (h : Host) : Files :=
  written Path.here (outcomeAt s h 0) h.files

/-- The directory of the workspace holds the manifest and the source. Besides there is nothing in it
but directories, and not even these if the place of the directory stays free. -/
structure IsPrepared (s : Settings) (source project : Text) (h : Host) (w : Workspace) (f : Files)
    (p : Position) (content : Text) : Prop where
  expanded : Template.expand Manifest.contract (CrateName.ofProject project) = .ok content
  leads : f.DirectoryAt w.root p
  hasManifest : f.at? (p ++ [manifestName]) = some (.file (Text.encode content))
  hasSource : f.at? (p ++ [sourceDirectoryName, sourceName]) = some (.file (Text.encode source))
  others : ∀ names e, f.at? (p ++ names) = some e →
    names = [manifestName] ∨ names = [sourceDirectoryName, sourceName] ∨ e = .directory
  isNew : StaysFree (probed s h) s.tempRoot w.root →
    IsNew f p (Text.encode content) (Text.encode source)

/-- The starts of a compilation come in order, each after what it depends on. -/
structure InOrder (s : Settings) (source project : Text) (h : Host) (w : Workspace)
    (starts : List (Command × Files)) : Prop where
  order : starts.map Prod.fst <+: commands s w
  once : (starts.map Prod.fst).Nodup
  check : ∀ f, (checkCommand s w, f) ∈ starts →
    ToolAnswers s h ∧ ∃ p content, IsPrepared s source project h w f p content
  build : ∀ f, (buildCommand s w, f) ∈ starts → ∃ others,
    reportOf "cargo stylus check" (checkCommand s w) s.checkTimeout (outcomeAt s h 1) =
      .ok ⟨[], others⟩
  abi : ∀ f, (abiCommand s w, f) ∈ starts →
    (∃ others, reportOf "cargo build" (buildCommand s w) s.buildTimeout (outcomeAt s h 2) =
      .ok ⟨[], others⟩) ∧
    ∃ b bytes, f.find? w.artifactPath = .ok (some (.file (b :: bytes)))
  gas : abiCommand s w ∈ starts.map Prod.fst → outcomeAt s h 3 ≠ .interrupted →
    (∀ child, outcomeAt s h 3 = .started child → child.ending ≠ .cancelled) →
    gasCommand s w ∈ starts.map Prod.fst
  place : ∀ c f, (c, f) ∈ starts → c = versionCommand s ∨ c.directory = some w.root

theorem nodup_commands (s : Settings) (w : Workspace) : (commands s w).Nodup := by
  refine List.Nodup.of_map Command.arguments ?_
  show ([["stylus", "--version"], ["stylus", "check"],
    ["build", "--release", "--target", Manifest.wasmTarget], ["stylus", "export-abi"],
    ["stylus", "estimate-gas"]] : List (List Text)).Nodup
  decide

section Order

variable {s : Settings} {h : Host} {w : Workspace} {f : Files}

theorem scheduleQuestions_order :
    (scheduleQuestions s h w f).map Prod.fst <+: [abiCommand s w, gasCommand s w] := by
  unfold scheduleQuestions
  refine (List.prefix_cons_inj _).2 ?_
  split
  · exact List.prefix_rfl
  · exact List.nil_prefix

theorem scheduleArtifact_order :
    (scheduleArtifact s h w f).map Prod.fst <+: [abiCommand s w, gasCommand s w] := by
  unfold scheduleArtifact
  split
  · exact scheduleQuestions_order
  · exact List.nil_prefix

theorem scheduleStage_order {label : Text} {c : Command} {budget : Binary64} {o : Spawn}
    {later : List (Command × Files)} {cs : List Command} (hlater : later.map Prod.fst <+: cs) :
    (scheduleStage label c budget o f later).map Prod.fst <+: c :: cs := by
  unfold scheduleStage
  refine (List.prefix_cons_inj _).2 ?_
  split
  · exact hlater
  · exact List.nil_prefix

theorem scheduleBuild_order : (scheduleBuild s h w f).map Prod.fst <+:
    [buildCommand s w, abiCommand s w, gasCommand s w] :=
  scheduleStage_order scheduleArtifact_order

theorem scheduleCheck_order : (scheduleCheck s h w f).map Prod.fst <+:
    [checkCommand s w, buildCommand s w, abiCommand s w, gasCommand s w] :=
  scheduleStage_order scheduleBuild_order

theorem schedule_order (source project : Text) :
    (schedule s source project h).map Prod.fst <+: commands s (named s.tempRoot project h) := by
  unfold schedule
  refine (List.prefix_cons_inj _).2 ?_
  split
  · unfold scheduleWorkspace
    split
    · exact scheduleCheck_order
    · exact List.nil_prefix
  · exact List.nil_prefix

/-- What is scheduled after the build is scheduled because the artifact is there. -/
theorem mem_scheduleArtifact {x : Command × Files} (hx : x ∈ scheduleArtifact s h w f) :
    (∃ b bytes, f.find? w.artifactPath = .ok (some (.file (b :: bytes)))) ∧
      scheduleArtifact s h w f = scheduleQuestions s h w f := by
  unfold scheduleArtifact at hx ⊢
  split at hx
  · rename_i b bytes hf
    exact ⟨⟨b, bytes, hf⟩, rfl⟩
  · cases hx

/-- What is scheduled after a stage is scheduled because no errors are reported. -/
theorem mem_scheduleStage {label : Text} {c : Command} {budget : Binary64} {o : Spawn}
    {later : List (Command × Files)} {x : Command × Files}
    (hx : x ∈ scheduleStage label c budget o f later) :
    x = (c, f) ∨ (∃ others, reportOf label c budget o = .ok ⟨[], others⟩) ∧ x ∈ later ∧
      scheduleStage label c budget o f later = (c, f) :: later := by
  unfold scheduleStage at hx ⊢
  rcases List.mem_cons.1 hx with rfl | hx
  · exact .inl rfl
  · split at hx
    · rename_i others hreport
      exact .inr ⟨⟨others, hreport⟩, hx, rfl⟩
    · cases hx

theorem mem_schedule {source project : Text} {x : Command × Files}
    (hx : x ∈ schedule s source project h) :
    x = (versionCommand s, h.files) ∨
      ToolAnswers s h ∧ ∃ g,
        (named s.tempRoot project h).filling source Manifest.contract (probed s h) = (.ok (), g) ∧
        x ∈ scheduleCheck s h (named s.tempRoot project h) g ∧
        schedule s source project h =
          (versionCommand s, h.files) :: scheduleCheck s h (named s.tempRoot project h) g := by
  unfold schedule scheduleWorkspace at hx ⊢
  rcases List.mem_cons.1 hx with rfl | hx
  · exact .inl rfl
  · split at hx
    · rename_i v hanswer
      split at hx
      · rename_i g hfilling
        exact .inr ⟨⟨v, hanswer⟩, g, hfilling, hx, rfl⟩
      · cases hx
    · cases hx

end Order

/-- Where the place of its directory was free, a workspace that is filled is prepared. -/
theorem isPrepared_of_filling {s : Settings} {source project : Text} {h : Host} {g : Files}
    (ht : (probed s h).IsTree)
    (hfree : Free (probed s h) s.tempRoot (named s.tempRoot project h).root)
    (hf : (named s.tempRoot project h).filling source Manifest.contract (probed s h) =
      (.ok (), g)) :
    ∃ p content, IsPrepared s source project h (named s.tempRoot project h) g p content := by
  have houtcome := filling_outcome (w := named s.tempRoot project h) rfl ht hfree source
    Manifest.contract
  rw [hf] at houtcome
  obtain ⟨content, p, k, hexpand, hk, hg, hnew, rfl⟩ := houtcome.2 rfl
  have hground : p.isGround = false := not_isGround_of_at? (hfree p hk.located) (by simp)
  have hat := at?_filledAt k hground (Text.encode content) (Text.encode source)
  -- below its place the tree has nothing but the directories that were made above the workspace
  have hdirectories : ∀ names e, k.at? (p ++ names) = some e → e = .directory := by
    have habove : ∀ names e, ((probed s h).withDirectories s.tempRoot).at? (p ++ names) = some e →
        e = .directory := by
      intro names e he
      have hnone := ht.at?_eq_none_below (hfree p hk.located) (List.prefix_append p names)
      exact (new_of_grows ht ((probed s h).grows_withDirectories s.tempRoot) he hnone).1
    intro names e he
    rcases hnew with rfl | rfl
    · exact habove names e he
    · rw [at?_put _ _ hground] at he
      split at he
      · cases he
        rfl
      · exact habove names e he
  refine ⟨p, content, hexpand, hg.directoryAt, ?_, ?_, ?_, ?_⟩
  · rw [hat, if_neg (by decide), if_pos rfl]
  · rw [hat, if_pos rfl]
  · intro names e he
    rw [hat] at he
    split at he
    · rename_i hsource
      exact .inr (.inl hsource)
    · split at he
      · rename_i hmanifest
        exact .inl hmanifest
      · split at he
        · cases he
          exact .inr (.inr rfl)
        · exact .inr (.inr (hdirectories names e he))
  · intro hstays
    have hplace := hstays p hk.located
    rcases hnew with rfl | rfl
    · rw [hk.filled] at hplace
      cases hplace
    · exact isNew_filledAt (ht.withDirectories s.tempRoot) hplace _ _

section Later

variable {s : Settings} {source project : Text} {h : Host} {w : Workspace} {c : Command} {f : Files}
  (hw : named s.tempRoot project h = w) (hmem : (c, f) ∈ schedule s source project h)

include hw hmem

/-- Every command but the first is scheduled in a workspace that is filled. -/
theorem scheduled_in_workspace
    (hc : c ∈ [checkCommand s w, buildCommand s w, abiCommand s w, gasCommand s w]) :
    ToolAnswers s h ∧ ∃ g, w.filling source Manifest.contract (probed s h) = (.ok (), g) ∧
      (c, f) ∈ scheduleCheck s h w g ∧
      scheduleCheck s h w g ⊆ schedule s source project h := by
  rcases mem_schedule hmem with heq | ⟨hanswers, g, hfilling, hmem', heq⟩
  · obtain ⟨rfl, -⟩ := Prod.mk.inj heq
    exact absurd hc (List.nodup_cons.1 (nodup_commands s w)).1
  · rw [hw] at hfilling hmem' heq
    rw [heq]
    exact ⟨hanswers, g, hfilling, hmem', List.subset_cons_self _ _⟩

/-- Every command but the first two is scheduled after a check that reports no errors. -/
theorem scheduled_after_check (hc : c ∈ [buildCommand s w, abiCommand s w, gasCommand s w]) :
    (∃ others, reportOf "cargo stylus check" (checkCommand s w) s.checkTimeout (outcomeAt s h 1) =
        .ok ⟨[], others⟩) ∧
      ∃ g, (c, f) ∈ scheduleBuild s h w g ∧
        scheduleBuild s h w g ⊆ schedule s source project h := by
  obtain ⟨-, g, -, hmem', hsub⟩ := scheduled_in_workspace hw hmem (List.mem_cons_of_mem _ hc)
  rcases mem_scheduleStage hmem' with heq | ⟨hreport, hbuild, heq⟩
  · obtain ⟨rfl, -⟩ := Prod.mk.inj heq
    exact absurd hc (List.nodup_cons.1 (List.nodup_cons.1 (nodup_commands s w)).2).1
  · refine ⟨hreport, _, hbuild, List.Subset.trans ?_ hsub⟩
    rw [scheduleCheck, heq]
    exact List.subset_cons_self _ _

/-- The last two commands are scheduled after a build that reports no errors, and with an
artifact. -/
theorem scheduled_after_build (hc : c ∈ [abiCommand s w, gasCommand s w]) :
    (∃ others, reportOf "cargo build" (buildCommand s w) s.buildTimeout (outcomeAt s h 2) =
        .ok ⟨[], others⟩) ∧
      ∃ g, (∃ b bytes, g.find? w.artifactPath = .ok (some (.file (b :: bytes)))) ∧
        (c, f) ∈ scheduleQuestions s h w g ∧
        scheduleQuestions s h w g ⊆ schedule s source project h := by
  obtain ⟨-, g, hmem', hsub⟩ := scheduled_after_check hw hmem (List.mem_cons_of_mem _ hc)
  rcases mem_scheduleStage hmem' with heq | ⟨hreport, hartifact, heq⟩
  · obtain ⟨rfl, -⟩ := Prod.mk.inj heq
    have hnodup := (List.nodup_cons.1 (List.nodup_cons.1 (nodup_commands s w)).2).2
    exact absurd hc (List.nodup_cons.1 hnodup).1
  · obtain ⟨hthere, hquestions⟩ := mem_scheduleArtifact hartifact
    rw [hquestions] at hartifact
    refine ⟨hreport, _, hthere, hartifact, List.Subset.trans ?_ hsub⟩
    rw [scheduleBuild, heq, hquestions]
    exact List.subset_cons_self _ _

end Later

/-- What is scheduled is in order. -/
theorem inOrder_schedule {s : Settings} {source project : Text} {h : Host}
    (ht : (probed s h).IsTree)
    (hfree : Free (probed s h) s.tempRoot (named s.tempRoot project h).root) :
    InOrder s source project h (named s.tempRoot project h) (schedule s source project h) := by
  have horder := schedule_order (s := s) (h := h) source project
  have hprepared : ∀ g, _ → ∃ p content, IsPrepared s source project h _ g p content :=
    fun g => isPrepared_of_filling ht hfree
  generalize hw : named s.tempRoot project h = w at horder hprepared ⊢
  obtain ⟨-, hcheck, -, habi, -⟩ : versionCommand s ∉ [checkCommand s w, _, _, _] ∧
      checkCommand s w ∉ [buildCommand s w, _, _] ∧ buildCommand s w ∉ [abiCommand s w, _] ∧
      abiCommand s w ∉ [gasCommand s w] ∧ [gasCommand s w].Nodup := by
    simpa only [commands, List.nodup_cons] using nodup_commands s w
  refine ⟨horder, horder.sublist.nodup (nodup_commands s w), ?_, ?_, ?_, ?_, ?_⟩
  · -- the check is the first command of its schedule and none of the later ones
    intro f hmem
    obtain ⟨hanswers, g, hfilling, hmem', -⟩ := scheduled_in_workspace hw hmem (by simp)
    obtain rfl : f = g := by
      rcases mem_scheduleStage hmem' with heq | ⟨-, hbuild, -⟩
      · exact congrArg Prod.snd heq
      · exact absurd (scheduleBuild_order.subset (List.mem_map_of_mem hbuild)) hcheck
    exact ⟨hanswers, hprepared f hfilling⟩
  · intro f hmem
    exact (scheduled_after_check hw hmem (by simp)).1
  · intro f hmem
    obtain ⟨hreport, g, hthere, hmem', -⟩ := scheduled_after_build hw hmem (by simp)
    obtain rfl : f = g := by
      unfold scheduleQuestions at hmem'
      rcases List.mem_cons.1 hmem' with heq | hmem'
      · exact congrArg Prod.snd heq
      · split at hmem'
        · obtain ⟨hsame, -⟩ := Prod.mk.inj (List.mem_singleton.1 hmem')
          exact absurd (List.mem_singleton.2 hsame) habi
        · cases hmem'
    exact ⟨hreport, hthere⟩
  · -- the questions are scheduled together, and the first one has an answer
    intro hmem hinterrupted hcancelled
    obtain ⟨⟨c, f⟩, hmem, rfl⟩ := List.mem_map.1 hmem
    obtain ⟨-, g, -, -, hsub⟩ := scheduled_after_build hw hmem (by simp)
    obtain ⟨abi, hanswer⟩ := optionOf_ok ⟨hinterrupted, hcancelled⟩ spokenText (abiCommand s w)
      s.abiTimeout
    have hgas : (gasCommand s w, written w.root (outcomeAt s h 3) g) ∈
        scheduleQuestions s h w g := by
      rw [scheduleQuestions, hanswer]
      simp
    exact List.mem_map_of_mem (f := Prod.fst) (hsub hgas)
  · intro c f hmem
    have hc := horder.subset (List.mem_map_of_mem (f := Prod.fst) hmem)
    simp only [commands, List.mem_cons, List.not_mem_nil, or_false] at hc
    rcases hc with rfl | rfl | rfl | rfl | rfl
    · exact .inl rfl
    all_goals exact .inr rfl

/-- On every way out of a compilation, the commands that it tries to start come in order. The clock
has to show real times, and the place of the workspace has to be free once the probe has run. -/
theorem commands_in_order (s : Settings) (source project : Text) (h : Host) (hr : h.HasRealTimes)
    (ht : h.files.IsTree)
    (hfree : Free (probed s h) s.tempRoot (named s.tempRoot project h).root) :
    ∃ events, ((compile s source project).on h).2.trace = h.trace ++ events ∧
      InOrder s source project h (named s.tempRoot project h) (Event.starts events) := by
  obtain ⟨events, htrace, hstarts⟩ := tries_compile (s := s) hr source project
  refine ⟨events, htrace, ?_⟩
  rw [hstarts]
  exact inOrder_schedule (isTree_written ht _ _) hfree

/-- A host on which every command succeeds but the export of the interface, which overruns. -/
def overrunExportHost : Host :=
  { spawns :=
      [.started { ending := .exited 0 (Text.encode "0.5.3") [] },
        .started { ending := .exited 0 [] [] },
        .started
          { writes :=
              [(Path.ofText "target/wasm32-unknown-unknown/release/demo.wasm", .file [0, 97])]
            ending := .exited 0 [] [] },
        .started { ending := .overrun },
        .started { ending := .exited 0 [] [] }] }

theorem commands_in_order_overrunExport :
    (Event.starts ((compile { tempRoot := Path.ofText "builds" } "fn main();" "demo").on
        overrunExportHost).2.trace).length = 5 ∧
      ∃ events, ((compile { tempRoot := Path.ofText "builds" } "fn main();" "demo").on
          overrunExportHost).2.trace = [] ++ events ∧
        InOrder { tempRoot := Path.ofText "builds" } "fn main();" "demo" overrunExportHost
          (named (Path.ofText "builds") "demo" overrunExportHost) (Event.starts events) := by
  have htimes : overrunExportHost.HasRealTimes := by
    intro t ht
    obtain rfl := List.mem_singleton.1 ht
    exact ⟨by decide, by decide, by decide, by decide, by decide, by decide⟩
  refine ⟨by decide +kernel, ?_⟩
  exact commands_in_order { tempRoot := Path.ofText "builds" } "fn main();" "demo"
    overrunExportHost htimes (isTree_of_entries (by decide)) (by decide +kernel)

end Toolchain

end ContractBuild
