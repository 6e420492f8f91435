import ContractBuild.Proofs.Build.Toolchain

/-!
# The lifetime of a build directory

What a compilation and a check of the syntax leave on the host, on every way out of them: with a
result, cancelled, or with any other failure, in whatever stage.

Main statement: `Toolchain.leaves_only_parents`. The build directory is gone with all that is below
it, every entry that was there before is unchanged, and nothing is new but the directories above the
build directory. If the tool cannot be used, the files are not changed at all.
-/

set_option autoImplicit false

namespace ContractBuild.Toolchain

open Files Run Workspace

/-! ## Work in a workspace -/

/-- A process writes where it may: nothing if it runs in the working directory, as a probe does,
and otherwise only at or below the directory in which it runs. -/
def Confined (c : Command) (f : Files) (child : Child) : Prop :=
  match c.directory with
  | none => FileRun.plantAll Path.here child.writes f = f
  | some d => ∀ p, f.locate false d = .ok p →
      ∀ q, ¬ p <+: q → (FileRun.plantAll d child.writes f).at? q = f.at? q

/-- Whether a process is confined can be read off the lists of entries. -/
def isConfined (c : Command) (f : Files) (child : Child) : Bool :=
  match c.directory with
  | none => FileRun.plantAll Path.here child.writes f = f
  | some d =>
    match f.locate false d with
    | .error _ => true
    | .ok p =>
      (FileRun.plantAll d child.writes f).entries.filter (fun e => !p.isPrefixOf e.1) =
        f.entries.filter (fun e => !p.isPrefixOf e.1)

theorem confined_of_isConfined {c : Command} {f : Files} {child : Child}
    (h : isConfined c f child = true) : Confined c f child := by
  unfold isConfined at h
  unfold Confined
  cases hc : c.directory with
  | none =>
    rw [hc] at h
    exact of_decide_eq_true h
  | some d =>
    intro p hl q hq
    simp only [hc, hl, decide_eq_true_eq] at h
    exact at?_outside_of_entries h hq

theorem allStarted_of_isConfined {h h' : Host}
    (hall : ((h.startsUntil h').all fun x =>
      match x.2 with
      | .started child => isConfined x.1.1 x.1.2 child
      | _ => true) = true) : h.AllStarted Confined h' := by
  intro c f child hmem
  exact confined_of_isConfined (List.all_eq_true.1 hall _ hmem)

/-- A command that runs in the directory keeps it standing at its place. -/
theorem preserves_stands {d : Files} {root : Path} {p : Position} (s : Settings)
    (arguments : List Text) (budget : Binary64) :
    Preserves Confined (Stands d root p) (Run.command (command s (some root) arguments) budget) :=
  preserves_command budget fun f child hs hconfined =>
    hs.edits (FileRun.edits_plantAll root child.writes f) (hconfined p hs.locate)

theorem leaves_within {α : Type} {parent : Path} {project source template : Text}
    {work : Workspace → Run α} {h : Host} (ht : h.files.IsTree)
    (hfree : Free h.files parent (named parent project h).root)
    (hwork : ∀ p, Preserves Confined
      (Stands (h.files.withDirectories parent) (named parent project h).root p)
      (work (named parent project h)))
    (hall : h.AllStarted Confined ((within parent project source template work).on h).2) :
    Leaves h.files parent (named parent project h).root
      ((within parent project source template work).on h).2.files := by
  obtain ⟨hreach, hfilled⟩ :=
    filling_outcome (w := named parent project h) rfl ht hfree source template
  cases hf : (named parent project h).filling source template h.files with
  | mk r g =>
    rw [hf] at hreach hfilled
    cases r with
    | error e =>
      rw [within_of_error work hf]
      show Leaves _ _ _ (Host.files (Prod.snd _))
      rw [(noted_release _ _).files]
      exact leaves_of_reaches ht hfree hreach
    | ok =>
      obtain ⟨manifest, p, k, -, -, hstands, -⟩ := hfilled rfl
      obtain ⟨h₁, hn, hwithin⟩ := within_of_ok work hf
      rw [hwithin] at hall ⊢
      -- the processes of the work are those started between its making and its removal
      have hcontinues := (hwork p).continues h₁
      have hstarted := (drawn_follows h g).trans hn.follows
      obtain ⟨hall, -⟩ := hall.split (hstarted.trans hcontinues.follows) (follows_release _ _)
      obtain ⟨-, hall⟩ := hall.split hstarted hcontinues.follows
      have hstands₁ : Stands (h.files.withDirectories parent) (named parent project h).root p
          h₁.files := by
        rw [hn.files]
        exact hstands
      show Leaves _ _ _ (Host.files (Prod.snd _))
      rw [(noted_release _ _).files]
      exact leaves_of_stands hfree ((hwork p).files h₁ hall hstands₁)

/-! ## What is left -/

/-- What a call may leave of the tree `f`: the place of the build directory is empty with all below
it, every entry of `f` is as it was, and an entry that is new is one of the directories above the
build directory. -/
structure LeavesOnlyParents (f : Files) (parent root : Path) (g : Files) : Prop where
  gone : ∀ p, (f.withDirectories parent).locate false root = .ok p → ∀ q, p <+: q → g.at? q = none
  absent : ∀ p, g.locate false root = .ok p → g.at? p = none
  kept : ∀ q e, f.at? q = some e → g.at? q = some e
  added : ∀ q e, g.at? q = some e → f.at? q = none →
    e = .directory ∧ ∃ a, a.IsAbove parent ∧ (f.withDirectories parent).DirectoryAt a q

theorem leavesOnlyParents_of_leaves {f : Files} {parent root : Path} (ht : f.IsTree)
    (hfree : Free f parent root) {g : Files} (h : Leaves f parent root g) :
    LeavesOnlyParents f parent root g := by
  have hgrows := f.grows_withDirectories parent
  -- Where the path leads in what is left, it leads with the directories above it made.
  have hleads : g.Keeps (f.withDirectories parent) →
      (∀ p, (f.withDirectories parent).locate false root = .ok p → g.at? p = none) →
      ∀ p, g.locate false root = .ok p → g.at? p = none := by
    intro hkeeps hnone p hl
    by_contra hp
    exact hp (hnone p (locate_keeps hkeeps hl hp))
  cases h with
  | before =>
    refine ⟨fun p hl q hq => ht.at?_eq_none_below (hfree p hl) hq,
      hleads (ht.keeps_withDirectories parent) hfree, fun _ _ hq => hq, ?_⟩
    intro q e hq hnone
    rw [hq] at hnone
    cases hnone
  | parents hnone =>
    exact ⟨fun p hl q hq => (ht.withDirectories parent).at?_eq_none_below (hnone p hl) hq,
      hnone, fun q e => at?_of_grows hgrows, fun q e => new_of_grows ht hgrows⟩
  | @removed p _ hl houtside hbelow =>
    have hfewer : ∀ q e, g.at? q = some e → (f.withDirectories parent).at? q = some e := by
      intro q e hq
      rw [← houtside q, hq]
      intro hpq
      rw [hbelow q hpq] at hq
      cases hq
    have hgone : ∀ p', (f.withDirectories parent).locate false root = .ok p' →
        ∀ q, p' <+: q → g.at? q = none := by
      intro p' hl' q hq
      obtain rfl := locate_unique hl hl'
      exact hbelow q hq
    refine ⟨hgone, hleads (.of_fewer hfewer) fun p' hl' => hgone p' hl' p' List.prefix_rfl, ?_,
      fun q e hq => new_of_grows ht hgrows (hfewer q e hq)⟩
    intro q e hq
    rw [houtside q, at?_of_grows hgrows hq]
    -- Nothing that was there before stands at or below the place of the directory.
    intro hpq
    rw [ht.at?_eq_none_below (hfree p hl) hpq] at hq
    cases hq

/-- Guarded work in a workspace leaves only the directories above it, or nothing at all. -/
theorem leaves_guarded {α β : Type} {probe : Run Bool} {work : Workspace → Run α}
    {post : Except Failure α → Run β} {other : Run β} {parent : Path}
    {project source template : Text} {h : Host} (ht : h.files.IsTree)
    (hfree : Free h.files parent (named parent project h).root)
    (hprobe : Preserves Confined (· = h.files) probe)
    (hwork : ∀ w d p, Preserves Confined (Stands d w.root p) (work w))
    (hpost : ∀ r (h₁ : Host), h₁.Noted ((post r).on h₁).2)
    (hother : ∀ h₁ : Host, h₁.Noted (other.on h₁).2)
    (hall : h.AllStarted Confined
      ((guarded probe (within parent project source template work) post other).on h).2) :
    LeavesOnlyParents h.files parent (named parent project h).root
        ((guarded probe (within parent project source template work) post other).on h).2.files ∧
      ((probe.on h).1 ≠ .ok true →
        ((guarded probe (within parent project source template work) post other).on h).2.files =
          h.files) := by
  have hfollows : ∀ h₁ : Host,
      h₁.Follows ((within parent project source template work).on h₁).2 :=
    fun h₁ => follows_within work fun h₂ => ((hwork _ h₁.files []).continues h₂).follows
  rcases guarded_files hprobe hfollows hpost hother hall with
    ⟨hok, h₁, hcontinues, hfiles, hall₁, heq⟩ | ⟨hnot, heq⟩
  · have hnamed := named_of_continues hcontinues parent project
    rw [← hfiles] at ht
    rw [← hnamed, ← hfiles] at hfree
    have hleaves := leaves_within ht hfree (fun p => hwork _ _ p) hall₁
    refine ⟨?_, fun hnot => absurd hok hnot⟩
    rw [heq, ← hnamed, ← hfiles]
    exact leavesOnlyParents_of_leaves ht hfree hleaves
  · rw [heq]
    exact ⟨leavesOnlyParents_of_leaves ht hfree .before, fun _ => rfl⟩

/-- A probe that is confined changes no files. -/
theorem preserves_probe (f : Files) (program : Text) (arguments : List Text) (budget : Binary64) :
    Preserves Confined (· = f) (Run.command ⟨program, arguments, none⟩ budget) := by
  refine preserves_command budget fun g child hg hconfined => ?_
  subst hg
  exact hconfined

/-! ## Both entry points -/

/-- A call of one of the two entry points. -/
inductive Call
  | compile (source project : Text)
  | checkSyntax (source : Text)

namespace Call

/-- The name of the project that the build directory is named for. -/
def project : Call → Text
  | compile _ project => project
  | checkSyntax _ => "validator"

/-- The question whether the tool can be used. -/
def probe (s : Settings) : Call → Run Bool
  | compile _ _ => isAvailable s
  | checkSyntax _ => hasCompiler s

/-- The host once the call has ended, in whatever way. -/
def after (s : Settings) (h : Host) : Call → Host
  | compile source project => ((Toolchain.compile s source project).on h).2
  | checkSyntax source => ((Toolchain.checkSyntax s source).on h).2

/-- The build directory of the call. -/
def root (s : Settings) (h : Host) (call : Call) : Path :=
  (named s.tempRoot call.project h).root

end Call

/-- However a call ends, nothing is left of its build directory, everything else is as it was before
apart from the directories above the build directory, and nothing at all has changed if the tool
cannot be used. The place of the build directory has to be free, and the processes have to be
confined. -/
theorem leaves_only_parents (s : Settings) (call : Call) (h : Host) (ht : h.files.IsTree)
    (hfree : Free h.files s.tempRoot (call.root s h))
    (hall : h.AllStarted Confined (call.after s h)) :
    LeavesOnlyParents h.files s.tempRoot (call.root s h) (call.after s h).files ∧
      (((call.probe s).on h).1 ≠ .ok true → (call.after s h).files = h.files) := by
  cases call with
  | compile source project =>
    have hprobe := preserves_isAvailable (s := s) (preserves_probe h.files _ _ _)
    have hwork : ∀ (w : Workspace) d p, Preserves Confined (Stands d w.root p) (stages s w) :=
      fun w d p => preserves_stages (preserves_stands s)
    simp only [Call.after, compile_eq] at hall ⊢
    exact leaves_guarded ht hfree hprobe hwork noted_compileEnd noted_toolMissing hall
  | checkSyntax source =>
    have hprobe := preserves_hasCompiler (s := s) (preserves_probe h.files _ _ _)
    have hwork : ∀ (w : Workspace) d p, Preserves Confined (Stands d w.root p)
        (Run.command (syntaxCommand s w) s.syntaxTimeout) :=
      fun w d p => preserves_stands s _ _
    simp only [Call.after, checkSyntax_eq] at hall ⊢
    exact leaves_guarded ht hfree hprobe hwork noted_checkEnd noted_compilerMissing hall

/-- A host on which a contract is checked once, without success, and the check leaves a file. -/
def failedCheckHost : Host :=
  { files := ⟨[(["keep"], .file [1])]⟩
    spawns :=
      [.started { ending := .exited 0 (Text.encode "0.5.3") [] },
        .started
          { writes := [(⟨.here, ["log"]⟩, .file [2])]
            ending := .exited 1 [] (Text.encode "error: no") }] }

theorem leaves_only_parents_failedCheck :
    (failedCheckHost.startsUntil ((Call.compile "fn main() \x7b\x7d" "demo").after
        { tempRoot := Path.ofText "builds" } failedCheckHost)).length = 2 ∧
      LeavesOnlyParents failedCheckHost.files (Path.ofText "builds")
        (Path.ofText "builds/demo-1700000000000000000-01234567")
        ((Call.compile "fn main() \x7b\x7d" "demo").after
          { tempRoot := Path.ofText "builds" } failedCheckHost).files := by
  have hplace : (failedCheckHost.files.withDirectories (Path.ofText "builds")).locate false
      (Path.ofText "builds/demo-1700000000000000000-01234567") =
        .ok ["builds", "demo-1700000000000000000-01234567"] := by
    decide +kernel
  have hfree : Free failedCheckHost.files (Path.ofText "builds")
      (Path.ofText "builds/demo-1700000000000000000-01234567") := by
    intro p hl
    obtain rfl := locate_unique hplace hl
    decide
  refine ⟨by decide +kernel, ?_⟩
  exact (leaves_only_parents { tempRoot := Path.ofText "builds" }
    (.compile "fn main() \x7b\x7d" "demo") failedCheckHost (isTree_of_entries (by decide)) hfree
    (allStarted_of_isConfined (by decide +kernel))).1

end ContractBuild.Toolchain
