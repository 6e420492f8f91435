import ContractBuild.Build.Session
import ContractBuild.Proofs.Build.Site

/-!
# Workspaces side by side

Several workspaces are opened, written in and left in any order, all in one directory. Others may
fail to be opened in between. `Workshop.Runs` says what may come of that: what the clock and the
generator of tokens answer is part of an act, and the owner of a workspace may write whatever he
likes below its directory.

Main statements: if no two names are drawn alike and all are free, then after each act the
directories that were named are different entries of the one directory, the tree is that at the
start with the open workspaces in it, and each of them holds what it was opened with until its owner
writes there; no act disturbs a workspace of another owner (`isolated_next`). Names may be taken by
the path of the directory itself, if that goes through them and back (`left_behind_crossing`).
-/

set_option autoImplicit false

namespace ContractBuild

open Files Workspace

/-! ## What may happen -/

/-- What the clock and the generator of tokens answer when a workspace is named. -/
structure Draw where
  tick : Int
  token : Text
  isHex : IsHex token

namespace Draw

/-- What must not be drawn twice: the reading and the first characters of the token. -/
def key (d : Draw) : Int × Text :=
  (d.tick, d.token.take 8)

/-- The workspace that gets its name by this draw. -/
def workspace (d : Draw) (parent : Path) (project : Text) : Workspace :=
  ⟨parent.child (directoryName (CrateName.ofProject project) d.tick d.token),
    CrateName.ofProject project⟩

end Draw

/-- The host on which the next name is drawn like this. -/
def Host.drawing (h : Host) (d : Draw) : Host :=
  { h with
    ticker := .given { current := d.tick }
    token := d.token }

/-- One thing that is done with workspaces. -/
inductive Act
  /-- Somebody tries to open a workspace under a label. -/
  | opens (label : Text) (draw : Draw) (project source template : Text)
  /-- The owner of a workspace works in it, and these are the files afterwards. -/
  | writes (label : Text) (files : Files)
  /-- The owner leaves a workspace, by its end or by a failure that goes on. -/
  | leaves (label : Text) (result : Except Failure Unit)

namespace Act

/-- What is drawn for the act. -/
def key? : Act → Option (Int × Text)
  | opens _ draw _ _ _ => some draw.key
  | _ => none

/-- The directory that is named for the act. -/
def root? (parent : Path) : Act → Option Path
  | opens _ draw project _ _ => some (draw.workspace parent project).root
  | _ => none

end Act

/-- The open workspaces and the host on which they are. -/
structure Workshop where
  session : Session := {}
  host : Host

namespace Workshop

/-- The owner of a workspace may change whatever is below its directory, and nothing else. -/
structure MayWrite (c : Workshop) (label : Text) (files : Files) : Prop where
  isTree : files.IsTree
  below : ∃ w p, c.session.find? label = some w ∧ c.host.files.locate false w.root = .ok p ∧
    files.at? p = some .directory ∧ ∀ q, ¬ p <+: q → files.at? q = c.host.files.at? q

/-- Whether something may be done next: only what is open can be written in and left. -/
def Allows (c : Workshop) : Act → Prop
  | .opens _ _ _ _ _ => True
  | .writes label files => c.MayWrite label files
  | .leaves label _ => ∃ w, c.session.find? label = some w

/-- What is done next. A workspace that cannot be opened is not among the open ones. -/
def next (parent : Path) (c : Workshop) : Act → Workshop
  | .opens label draw project source template =>
    match (c.session.openAs label parent project source template).on (c.host.drawing draw) with
    | (.ok (_, session), host) => ⟨session, host⟩
    | (.error _, host) => ⟨c.session, host⟩
  | .writes _ files => { c with host := { c.host with files } }
  | .leaves label result =>
    ⟨c.session.forget label,
      ((c.session.close label >>= fun _ => Run.answer id result).on c.host).2⟩

/-- What comes of acts, one after another, on a host without open workspaces. -/
inductive Runs (parent : Path) (start : Host) : List Act → Workshop → Prop
  | start : Runs parent start [] ⟨{}, start⟩
  | next {acts : List Act} {c : Workshop} {act : Act} :
      Runs parent start acts c → c.Allows act →
        Runs parent start (acts ++ [act]) (c.next parent act)

end Workshop

/-! ## Names that are drawn -/

/-- The directories that are named for some acts. -/
def namedRoots (parent : Path) (acts : List Act) : List Path :=
  acts.filterMap (Act.root? parent)

/-- What is drawn for some acts. -/
def drawnKeys (acts : List Act) : List (Int × Text) :=
  acts.filterMap Act.key?

/-- No two names are drawn alike, and all are free. -/
structure AreFresh (f : Files) (parent : Path) (acts : List Act) : Prop where
  distinct : (drawnKeys acts).Nodup
  free : ∀ root ∈ namedRoots parent acts, StaysFree f parent root

theorem AreFresh.before {f : Files} {parent : Path} {acts : List Act} {act : Act}
    (h : AreFresh f parent (acts ++ [act])) : AreFresh f parent acts := by
  have hsublist : acts.Sublist (acts ++ [act]) := List.sublist_append_left acts [act]
  refine ⟨h.distinct.sublist (hsublist.filterMap _), fun root hroot => h.free root ?_⟩
  exact (hsublist.filterMap _).subset hroot

/-! ## Acts on the files -/

namespace Session

variable {s : Session} {label : Text}

/-- Opening a workspace: if the label was in use, the workspace that had it is removed. -/
theorem openAs_of_ok (s : Session) (label : Text) {parent : Path}
    {project source template : Text} {h h' : Host} {w : Workspace}
    (ha : (acquire parent project source template).on h = (.ok w, h')) :
    ∃ h'', (s.openAs label parent project source template).on h =
        (.ok (w, s.remember label w), h'') ∧
      h''.files = match s.find? label with
        | some old => h'.files.withoutTree old.root
        | none => h'.files := by
  rw [openAs, Run.on_bind_ok ha]
  cases s.find? label with
  | none => exact ⟨h', rfl, rfl⟩
  | some old =>
    refine ⟨(old.release.on h').2, ?_, files_release old h'⟩
    rw [Run.on_bind_ok (Run.on_attempt h' _)]
    rfl

theorem openAs_of_error (s : Session) (label : Text) {parent : Path}
    {project source template : Text} {h h' : Host} {e : Failure}
    (ha : (acquire parent project source template).on h = (.error e, h')) :
    (s.openAs label parent project source template).on h = (.error e, h') := by
  rw [openAs, Run.on_bind_error ha]

/-- The labels of the open workspaces differ. -/
def IsLabelled (s : Session) : Prop :=
  (s.opened.map (·.1)).Nodup

/-- The open workspaces. -/
def workspaces (s : Session) : List Workspace :=
  s.opened.map (·.2)

theorem mem_forget_iff {x : Text × Workspace} :
    x ∈ (s.forget label).opened ↔ x ∈ s.opened ∧ x.1 ≠ label := by
  rw [forget, List.mem_filter, decide_eq_true_eq]

theorem mem_workspaces_of_find? {w : Workspace} (h : s.find? label = some w) :
    w ∈ s.workspaces := by
  obtain ⟨before, after, heq, -⟩ := List.lookup_eq_some_iff.1 h
  exact List.mem_map.2 ⟨(label, w), by rw [heq]; simp, rfl⟩

theorem forget_eq_self (h : s.find? label = none) : s.forget label = s := by
  obtain ⟨opened⟩ := s
  refine congrArg Session.mk (List.filter_eq_self.2 fun x hx => ?_)
  have hne : x.1 ≠ label := by
    rintro rfl
    have hsame := List.lookup_eq_none_iff.1 h x hx
    simp at hsame
  exact decide_eq_true hne

/-- The workspace under a label is one of the open ones; the others are those under other labels. -/
theorem perm_forget (hs : s.IsLabelled) {w : Workspace} (h : s.find? label = some w) :
    s.workspaces.Perm (w :: (s.forget label).workspaces) := by
  obtain ⟨opened⟩ := s
  unfold IsLabelled at hs
  unfold find? at h
  unfold workspaces forget
  simp only at hs h ⊢
  -- By induction on the open workspaces: behind the one that is found no other has its label.
  induction opened with
  | nil => cases h
  | cons x rest ih =>
    obtain ⟨first, v⟩ := x
    obtain ⟨hfirst, hrest⟩ := List.nodup_cons.1 hs
    by_cases hlabel : label = first
    · subst hlabel
      rw [List.lookup_cons_self] at h
      cases h
      have hkept : rest.filter (fun y => decide (y.1 ≠ label)) = rest := by
        refine List.filter_eq_self.2 fun y hy => ?_
        have hne : y.1 ≠ label := fun hsame => hfirst (List.mem_map.2 ⟨y, hy, hsame⟩)
        simpa using hne
      rw [List.filter_cons_of_neg (by simp), hkept]
      exact .refl _
    · have hne : (label == first) = false := by simpa using hlabel
      rw [List.lookup_cons, hne] at h
      rw [List.filter_cons_of_pos (by simpa using Ne.symm hlabel)]
      exact ((ih hrest h).cons v).trans (.swap _ _ _)

theorem isLabelled_forget (hs : s.IsLabelled) (label : Text) : (s.forget label).IsLabelled :=
  hs.sublist (List.filter_sublist.map _)

theorem isLabelled_remember (hs : s.IsLabelled) (label : Text) (w : Workspace) :
    (s.remember label w).IsLabelled := by
  refine List.nodup_cons.2 ⟨fun hmem => ?_, isLabelled_forget hs label⟩
  obtain ⟨x, hx, hlabel⟩ := List.mem_map.1 hmem
  exact (mem_forget_iff.1 hx).2 hlabel

/-- A workspace that stands beside those of the session takes the label of one of them, which is
removed, or a label of its own. -/
theorem houses_remember {d k k' : Files} {parent : Path} {w : Workspace} (hd : d.IsTree)
    (hs : s.IsLabelled) (h : Houses d parent (w :: s.workspaces) k)
    (hk' : k' = match s.find? label with
      | some old => k.withoutTree old.root
      | none => k) :
    Houses d parent (s.remember label w).workspaces k' ∧
      ∀ x ∈ (s.remember label w).workspaces, ∀ p, Site d parent x.root p → ∀ q, p <+: q →
        k'.at? q = k.at? q := by
  have hremember : (s.remember label w).workspaces = w :: (s.forget label).workspaces := rfl
  rw [hremember]
  cases hfind : s.find? label with
  | none =>
    rw [hfind] at hk'
    obtain rfl : k' = k := hk'
    rw [forget_eq_self hfind]
    exact ⟨h, fun _ _ _ _ _ _ => rfl⟩
  | some old =>
    rw [hfind] at hk'
    obtain rfl : k' = k.withoutTree old.root := hk'
    have hperm := h.perm (((perm_forget hs hfind).cons w).trans (.swap _ _ _))
    exact ⟨hperm.remove hd, fun x hx p hp q hq => hperm.at?_remove hd hx hp hq⟩

end Session

namespace Workshop

variable {parent : Path} {c : Workshop} {label : Text}

/-- What a process writes below the directory in which it runs is such a write of the owner. -/
theorem mayWrite_plantAll {w : Workspace} {p : Position}
    {items : List (Path × Entry)} (ht : c.host.files.IsTree)
    (hfind : c.session.find? label = some w) (hl : c.host.files.locate false w.root = .ok p)
    (hp : c.host.files.at? p = some .directory)
    (hout : ∀ q, ¬ p <+: q →
      (FileRun.plantAll w.root items c.host.files).at? q = c.host.files.at? q) :
    c.MayWrite label (FileRun.plantAll w.root items c.host.files) := by
  obtain ⟨htree, hkeeps⟩ :=
    isTree_keeps_of_edits ht (FileRun.edits_plantAll w.root items c.host.files)
  exact ⟨htree, w, p, hfind, hl, hkeeps.directory hp, hout⟩

theorem next_opens_of_ok (label : Text) {draw : Draw} {project source template : Text} {k : Files}
    (hfill : (draw.workspace parent project).filling source template c.host.files = (.ok (), k)) :
    (c.next parent (.opens label draw project source template)).session =
        c.session.remember label (draw.workspace parent project) ∧
      (c.next parent (.opens label draw project source template)).host.files =
        match c.session.find? label with
        | some old => k.withoutTree old.root
        | none => k := by
  have hacquire : ∃ h', (acquire parent project source template).on (c.host.drawing draw) =
      (.ok (draw.workspace parent project), h') ∧ (drawn (c.host.drawing draw) k).Noted h' :=
    acquire_of_ok hfill
  obtain ⟨h', hok, hnoted⟩ := hacquire
  obtain ⟨h'', hopen, hfiles⟩ := Session.openAs_of_ok c.session label hok
  have hk : h'.files = k := hnoted.files
  rw [next, hopen]
  exact ⟨rfl, by rw [hfiles, hk]⟩

theorem next_opens_of_error (label : Text) {draw : Draw} {project source template : Text}
    {k : Files} {e : Failure}
    (hfill : (draw.workspace parent project).filling source template c.host.files =
      (.error e, k)) :
    (c.next parent (.opens label draw project source template)).session = c.session ∧
      (c.next parent (.opens label draw project source template)).host.files =
        k.withoutTree (draw.workspace parent project).root := by
  have hacquire : ∃ e' h', (acquire parent project source template).on (c.host.drawing draw) =
      (.error e', h') ∧ h'.files = k.withoutTree (draw.workspace parent project).root :=
    acquire_fails hfill
  obtain ⟨e', h', herror, hfiles⟩ := hacquire
  rw [next, Session.openAs_of_error c.session label herror]
  exact ⟨rfl, hfiles⟩

theorem next_leaves (parent : Path) {w : Workspace} (result : Except Failure Unit)
    (h : c.session.find? label = some w) :
    (c.next parent (.leaves label result)).session = c.session.forget label ∧
      (c.next parent (.leaves label result)).host.files = c.host.files.withoutTree w.root := by
  refine ⟨rfl, ?_⟩
  have hclose : c.session.close label = w.release := by
    rw [Session.close, h]
  have hfiles := files_release w c.host
  show ((c.session.close label >>= fun _ => Run.answer id result).on c.host).2.files = _
  rw [hclose, Run.on_bind]
  -- Whatever the removal answers, the files are those after it.
  cases hrelease : w.release.on c.host with
  | mk r h' =>
    rw [hrelease] at hfiles
    cases r with
    | ok =>
      simp only [Run.on_answer]
      exact hfiles
    | error e => exact hfiles

end Workshop

/-! ## What every act preserves -/

/-- The workspace was opened under the label by one of the acts. While nobody has written under the
label since, its directory holds the manifest and the source of that act and nothing else. -/
inductive Tenant (d : Files) (parent : Path) (acts : List Act) (g : Files) (label : Text) :
    Workspace → Prop
  | intro {before after : List Act} {draw : Draw} {project source template manifest : Text}
      {p : Position} :
      acts = before ++ .opens label draw project source template :: after →
      Template.expand template (CrateName.ofProject project) = .ok manifest →
      Site d parent (draw.workspace parent project).root p →
      ((∀ files, .writes label files ∉ after) →
        IsNew g p (Text.encode manifest) (Text.encode source)) →
      Tenant d parent acts g label (draw.workspace parent project)

/-- What is at the places of the workspaces that are open before and after an act is left as it is,
apart from the one whose owner writes. -/
def Undisturbed (d : Files) (parent : Path) (act : Act) (c c' : Workshop) : Prop :=
  ∀ x ∈ c.session.opened, x ∈ c'.session.opened → (∀ files, act ≠ .writes x.1 files) →
    ∀ p, Site d parent x.2.root p → ∀ q, p <+: q → c'.host.files.at? q = c.host.files.at? q

section Steps

variable {f d g g' : Files} {parent : Path} {acts : List Act} {act : Act} {label : Text}
  {w : Workspace} {c c' : Workshop}

theorem Tenant.root_mem (h : Tenant d parent acts g label w) : w.root ∈ namedRoots parent acts := by
  obtain ⟨rfl, -, -, -⟩ := h
  exact List.mem_filterMap.2 ⟨_, List.mem_append_right _ List.mem_cons_self, rfl⟩

/-- An act that leaves the place of a workspace as it is, or is a write of its owner. -/
theorem Tenant.keep (h : Tenant d parent acts g label w)
    (hsame : (∀ files, act ≠ .writes label files) →
      ∀ p, Site d parent w.root p → ∀ q, p <+: q → g'.at? q = g.at? q) :
    Tenant d parent (acts ++ [act]) g' label w := by
  obtain ⟨rfl, hmanifest, hsite, hnew⟩ := h
  -- If nobody has written since the opening, neither does this act.
  refine .intro (List.append_assoc ..) hmanifest hsite fun hquiet names => ?_
  rw [hsame (fun files hact => hquiet files ?_) _ hsite _ (List.prefix_append _ _)]
  · exact hnew (fun files hmem => hquiet files (List.mem_append_left _ hmem)) names
  · exact hact ▸ List.mem_append_right _ List.mem_cons_self

/-- What holds after any acts. -/
structure Kept (f : Files) (parent : Path) (acts : List Act) (c : Workshop) : Prop where
  rests : Rests f parent c.session.workspaces c.host.files
  labelled : c.session.IsLabelled
  tenants : ∀ x ∈ c.session.opened,
    Tenant (f.withDirectories parent) parent acts c.host.files x.1 x.2

namespace Kept

/-- What has to be shown of an act. -/
theorem after (h : Kept f parent acts c)
    (hrests : Rests f parent c'.session.workspaces c'.host.files)
    (hlabelled : c'.session.IsLabelled)
    (hsame : Undisturbed (f.withDirectories parent) parent act c c')
    (hnew : ∀ x ∈ c'.session.opened, x ∈ c.session.opened ∨
      Tenant (f.withDirectories parent) parent (acts ++ [act]) c'.host.files x.1 x.2) :
    Kept f parent (acts ++ [act]) c' := by
  refine ⟨hrests, hlabelled, fun x hx => ?_⟩
  rcases hnew x hx with hold | htenant
  · exact (h.tenants x hold).keep (hsame x hold hx)
  · exact htenant

theorem root_mem (h : Kept f parent acts c) {root : Path}
    (hroot : root ∈ c.session.workspaces.map (·.root)) : root ∈ namedRoots parent acts := by
  obtain ⟨w, hw, rfl⟩ := List.mem_map.1 hroot
  obtain ⟨x, hx, rfl⟩ := List.mem_map.1 hw
  exact (h.tenants x hx).root_mem

/-- While a workspace is open, all open ones stand in the tree. -/
theorem houses (ht : f.IsTree) (h : Kept f parent acts c) (hw : w ∈ c.session.workspaces) :
    Houses (f.withDirectories parent) parent c.session.workspaces c.host.files := by
  rcases h.rests.prepare ht with ⟨hnil, -⟩ | ⟨hhouses, -⟩
  · rw [hnil] at hw
    cases hw
  · exact hhouses

theorem writes (ht : f.IsTree) (h : Kept f parent acts c) {files : Files}
    (hmay : c.MayWrite label files) :
    Kept f parent (acts ++ [.writes label files]) (c.next parent (.writes label files)) ∧
      Undisturbed (f.withDirectories parent) parent (.writes label files) c
        (c.next parent (.writes label files)) := by
  have hd := ht.withDirectories parent
  obtain ⟨w, p, hfind, hl, hp, hout⟩ := hmay.below
  have hw := Session.mem_workspaces_of_find? hfind
  have hhouses := h.houses ht hw
  -- Where the owner may write is the place of the workspace.
  obtain ⟨p', hsite, -⟩ := hhouses.stands w hw
  obtain rfl := locate_unique hl (hhouses.located hd hsite)
  have hsame : Undisturbed (f.withDirectories parent) parent (.writes label files) c
      (c.next parent (.writes label files)) := by
    intro x hx _ hother p' hp' q hq
    -- A workspace under another label is another workspace.
    have hlabel : x.1 ≠ label := by
      rintro rfl
      exact hother files rfl
    have hrest : x.2 ∈ (c.session.forget label).workspaces :=
      List.mem_map_of_mem (Session.mem_forget_iff.2 ⟨hx, hlabel⟩)
    have hne := (hhouses.perm (Session.perm_forget h.labelled hfind)).root_ne hrest
    exact hout q (hp'.apart hsite hne hq)
  refine ⟨h.after ?_ h.labelled hsame fun x hx => .inl hx, hsame⟩
  exact .housed (hhouses.write hw hsite hmay.isTree hp hout)

theorem leaves (ht : f.IsTree) (h : Kept f parent acts c) {result : Except Failure Unit}
    (hfind : c.session.find? label = some w) :
    Kept f parent (acts ++ [.leaves label result]) (c.next parent (.leaves label result)) ∧
      Undisturbed (f.withDirectories parent) parent (.leaves label result) c
        (c.next parent (.leaves label result)) := by
  have hd := ht.withDirectories parent
  obtain ⟨hsession, hfiles⟩ := Workshop.next_leaves parent result hfind
  have hhouses := (h.houses ht (Session.mem_workspaces_of_find? hfind)).perm
    (Session.perm_forget h.labelled hfind)
  have hsame : Undisturbed (f.withDirectories parent) parent (.leaves label result) c
      (c.next parent (.leaves label result)) := by
    intro x _ hx _ p hp q hq
    rw [hsession] at hx
    rw [hfiles]
    exact hhouses.at?_remove hd (List.mem_map_of_mem hx) hp hq
  refine ⟨h.after ?_ ?_ hsame fun x hx => .inl ?_, hsame⟩
  · rw [hsession, hfiles]
    exact .housed (hhouses.remove hd)
  · rw [hsession]
    exact Session.isLabelled_forget h.labelled label
  · rw [hsession] at hx
    exact (Session.mem_forget_iff.1 hx).1

section Opening

variable {draw : Draw} {project source template : Text} {k : Files}

theorem refused (ht : f.IsTree) (h : Kept f parent acts c)
    (hfresh : StaysFree f parent (draw.workspace parent project).root)
    (hnew : (draw.workspace parent project).root ∉ namedRoots parent acts) {e : Failure}
    (hfill : (draw.workspace parent project).filling source template c.host.files =
      (.error e, k)) :
    Kept f parent (acts ++ [.opens label draw project source template])
        (c.next parent (.opens label draw project source template)) ∧
      Undisturbed (f.withDirectories parent) parent (.opens label draw project source template) c
        (c.next parent (.opens label draw project source template)) := by
  obtain ⟨hsession, hfiles⟩ := Workshop.next_opens_of_error label hfill
  obtain ⟨hrests, hunchanged⟩ := h.rests.refuse ht
    (isPlain_directoryName project draw.tick draw.isHex) rfl hfresh
    (fun hmem => hnew (h.root_mem hmem)) hfill
  have hsame : Undisturbed (f.withDirectories parent) parent
      (.opens label draw project source template) c
      (c.next parent (.opens label draw project source template)) := by
    intro x hx _ _ p _ q _
    rw [hfiles]
    exact hunchanged (List.ne_nil_of_mem (List.mem_map_of_mem hx)) q
  refine ⟨h.after ?_ ?_ hsame fun x hx => .inl (hsession ▸ hx), hsame⟩
  · rw [hsession, hfiles]
    exact hrests
  · rw [hsession]
    exact h.labelled

theorem opened (ht : f.IsTree) (h : Kept f parent acts c)
    (hfresh : StaysFree f parent (draw.workspace parent project).root)
    (hnew : (draw.workspace parent project).root ∉ namedRoots parent acts)
    (hfill : (draw.workspace parent project).filling source template c.host.files = (.ok (), k)) :
    Kept f parent (acts ++ [.opens label draw project source template])
        (c.next parent (.opens label draw project source template)) ∧
      Undisturbed (f.withDirectories parent) parent (.opens label draw project source template) c
        (c.next parent (.opens label draw project source template)) := by
  have hd := ht.withDirectories parent
  obtain ⟨hsession, hfiles⟩ := Workshop.next_opens_of_ok label hfill
  -- Every open workspace was named by an act, so the new one has another directory than they.
  have hother : (draw.workspace parent project).root ∉ c.session.workspaces.map (·.root) :=
    fun hmem => hnew (h.root_mem hmem)
  obtain ⟨manifest, p, hmanifest, hsite, hhouses, hisNew, hout⟩ := h.rests.add ht
    (isPlain_directoryName project draw.tick draw.isHex) rfl hfresh hother hfill
  obtain ⟨hafter, hstays⟩ := Session.houses_remember hd h.labelled hhouses hfiles
  have hsame : Undisturbed (f.withDirectories parent) parent
      (.opens label draw project source template) c
      (c.next parent (.opens label draw project source template)) := by
    intro x hx hx' _ p' hp' q hq
    rw [hsession] at hx'
    have hmem : x.2 ∈ c.session.workspaces := List.mem_map_of_mem hx
    have hne : x.2.root ≠ (draw.workspace parent project).root := fun hroot =>
      hother (List.mem_map.2 ⟨x.2, hmem, hroot⟩)
    rw [hstays x.2 (List.mem_map_of_mem hx') p' hp' q hq, hout q (hp'.apart hsite hne hq),
      h.rests.withDirectories_eq ht (List.ne_nil_of_mem hmem)]
  refine ⟨h.after ?_ ?_ hsame fun x hx => ?_, hsame⟩
  · rw [hsession]
    exact .housed hafter
  · rw [hsession]
    exact Session.isLabelled_remember h.labelled label _
  -- The new workspace has its contents from this act, the others have stayed.
  · rw [hsession] at hx
    rcases List.mem_cons.1 hx with rfl | hx
    · refine .inr (.intro rfl hmanifest hsite fun _ names => ?_)
      rw [hstays _ List.mem_cons_self p hsite _ (List.prefix_append p names)]
      exact hisNew names
    · exact .inl (Session.mem_forget_iff.1 hx).1

end Opening

/-- Every act that may be done preserves what holds, and disturbs nobody. -/
theorem next (ht : f.IsTree) (h : Kept f parent acts c) (hallows : c.Allows act)
    (hfresh : ∀ root ∈ act.root? parent, StaysFree f parent root)
    (hnew : ∀ root ∈ act.root? parent, root ∉ namedRoots parent acts) :
    Kept f parent (acts ++ [act]) (c.next parent act) ∧
      Undisturbed (f.withDirectories parent) parent act c (c.next parent act) := by
  cases act with
  | opens label draw project source template =>
    cases hfill : (draw.workspace parent project).filling source template c.host.files with
    | mk r k =>
      cases r with
      | error e => exact h.refused ht (hfresh _ rfl) (hnew _ rfl) hfill
      | ok => exact h.opened ht (hfresh _ rfl) (hnew _ rfl) hfill
  | writes label files => exact h.writes ht hallows
  | leaves label result =>
    obtain ⟨w, hfind⟩ := hallows
    exact h.leaves ht hfind

end Kept

end Steps

/-! ## Names that differ -/

section Names

variable {f : Files} {parent : Path} {acts : List Act} {act : Act}

theorem Path.IsAbove.eq_of_child {p : Path} {m n : Text} (h : (p.child m).IsAbove (p.child n)) :
    m = n := by
  have hnames : p.names ++ [m] = p.names ++ [n] :=
    h.2.eq_of_length (by simp [Path.child])
  exact List.singleton_inj.1 (List.append_cancel_left hnames)

theorem Draw.key_of_root {d d' : Draw} {project project' : Text}
    (h : (d.workspace parent project).root = (d'.workspace parent project').root) :
    d.key = d'.key := by
  obtain ⟨-, htick, htoken⟩ := directoryName_inj d.isHex d'.isHex (Path.child_inj h).2
  exact Prod.ext htick htoken

theorem exists_draw_of_root {root : Path} (h : act.root? parent = some root) :
    ∃ (draw : Draw) (project : Text), act.key? = some draw.key ∧
      root = (draw.workspace parent project).root := by
  cases act with
  | opens label draw project source template =>
    cases h
    exact ⟨draw, project, rfl, rfl⟩
  | writes label files => cases h
  | leaves label result => cases h

/-- The directories that are named are entries of the directory. -/
theorem child_of_mem_roots {root : Path} (h : root ∈ namedRoots parent acts) :
    ∃ name, IsPlain name ∧ root = parent.child name := by
  obtain ⟨act, -, hact⟩ := List.mem_filterMap.1 h
  obtain ⟨draw, project, -, rfl⟩ := exists_draw_of_root hact
  exact ⟨_, isPlain_directoryName project draw.tick draw.isHex, rfl⟩

/-- While nothing is drawn twice, no directory that is named is another one or lies in it. -/
theorem apart_roots (parent : Path) (h : (drawnKeys acts).Nodup) :
    (namedRoots parent acts).Pairwise fun a b => ¬ a.IsAbove b ∧ ¬ b.IsAbove a := by
  rw [drawnKeys, List.Nodup, List.pairwise_filterMap] at h
  rw [namedRoots, List.pairwise_filterMap]
  refine h.imp fun {a b} hkeys root hroot root' hroot' => ?_
  obtain ⟨draw, project, hkey, rfl⟩ := exists_draw_of_root hroot
  obtain ⟨draw', project', hkey', rfl⟩ := exists_draw_of_root hroot'
  have hne : (draw.workspace parent project).root ≠ (draw'.workspace parent project').root :=
    fun hsame => hkeys _ hkey _ hkey' (Draw.key_of_root hsame)
  exact ⟨fun habove => hne (congrArg parent.child habove.eq_of_child),
    fun habove => hne (congrArg parent.child habove.eq_of_child).symm⟩

theorem notMem_roots_of_next (h : (drawnKeys (acts ++ [act])).Nodup) {root : Path}
    (hroot : act.root? parent = some root) : root ∉ namedRoots parent acts := by
  intro hmem
  have hapart := apart_roots parent h
  rw [namedRoots, List.filterMap_append, List.pairwise_append] at hapart
  have hlast : root ∈ [act].filterMap (Act.root? parent) :=
    List.mem_filterMap.2 ⟨act, List.mem_singleton.2 rfl, hroot⟩
  exact (hapart.2.2 root hmem root hlast).1 (Path.isAbove_refl root)

/-- A place that was free stays so if making the directory makes nothing below it. -/
theorem staysFree_of_free (ht : f.IsTree) (hbelow : f.MakesNothingBelow parent) {root : Path}
    (hroot : root ∈ namedRoots parent acts) (hfree : Free f parent root) :
    StaysFree f parent root := by
  intro p hl
  obtain ⟨name, hname, rfl⟩ := child_of_mem_roots hroot
  have hd := ht.withDirectories parent
  obtain ⟨P, -, hP, -⟩ := locate_child hd hl
  obtain ⟨-, rfl⟩ := (locate_child_iff hd hP hname.ne_up).1 hl
  rw [hbelow P hP _ (List.prefix_append _ _) (by simp), hfree _ hl]

end Names

/-! ## Isolation -/

/-- What is promised of workspaces that are used side by side in one directory. -/
structure Isolated (f : Files) (parent : Path) (acts : List Act) (c : Workshop) : Prop where
  /-- All directories that were named are entries of the directory. -/
  children : ∀ root ∈ namedRoots parent acts, ∃ name, IsPlain name ∧ root = parent.child name
  /-- No two of them are the same, and none lies in another. -/
  apart : (namedRoots parent acts).Pairwise fun a b => ¬ a.IsAbove b ∧ ¬ b.IsAbove a
  /-- The open ones stand, where nothing was before. -/
  stands : ∀ w ∈ c.session.workspaces, ∃ p, Site (f.withDirectories parent) parent w.root p ∧
    f.at? p = none ∧ c.host.files.at? p = some .directory
  distinct : (c.session.workspaces.map (·.root)).Nodup
  /-- All that was there before is as it was. -/
  kept : ∀ q e, f.at? q = some e → c.host.files.at? q = some e
  /-- What is new belongs to an open workspace, or is one of the directories on the way to them. -/
  added : ∀ q e, c.host.files.at? q = some e → f.at? q = none →
    (∃ w ∈ c.session.workspaces, ∃ p, Site (f.withDirectories parent) parent w.root p ∧ p <+: q) ∨
      (e = .directory ∧ ∃ a, a.IsAbove parent ∧ (f.withDirectories parent).DirectoryAt a q)
  /-- In the directory itself there is nothing new but the open workspaces, if it was there before
  or its path has no double points. -/
  below : (∃ P, f.DirectoryAt parent P) ∨ Position.up ∉ parent.names →
    ∀ P, (f.withDirectories parent).DirectoryAt parent P → ∀ q, P <+: q → q ≠ P →
      IsOutside (f.withDirectories parent) parent c.session.workspaces q →
        c.host.files.at? q = f.at? q
  /-- What an owner has not written to holds the manifest and the source that it was opened with. -/
  contents : ∀ x ∈ c.session.opened,
    Tenant (f.withDirectories parent) parent acts c.host.files x.1 x.2

section Isolation

variable {f : Files} {parent : Path} {acts : List Act} {act : Act} {c : Workshop} {start : Host}

theorem Kept.isolated (ht : f.IsTree) (h : Kept f parent acts c)
    (hkeys : (drawnKeys acts).Nodup) : Isolated f parent acts c where
  children _ := child_of_mem_roots
  apart := apart_roots parent hkeys
  stands w hw := by
    obtain ⟨p, hp, hat⟩ := (h.houses ht hw).stands w hw
    exact ⟨p, hp, hp.at?_before, hat⟩
  distinct := h.rests.distinct
  kept _ _ := h.rests.kept ht
  added q e hq hnone := by
    by_cases hout : IsOutside (f.withDirectories parent) parent c.session.workspaces q
    · exact .inr (h.rests.added ht hout hq hnone)
    · simp only [IsOutside, not_forall, not_not] at hout
      obtain ⟨w, hw, p, hp, hpq⟩ := hout
      exact .inl ⟨w, hw, p, hp, hpq⟩
  below hparent P hP q hPq hne hout := by
    have hbelow : f.MakesNothingBelow parent := by
      rcases hparent with ⟨P', hP'⟩ | hup
      · exact makesNothingBelow_of_directoryAt hP'
      · exact makesNothingBelow_of_no_up ht hup
    rcases h.rests.outside hout with hsame | hmade
    · exact hsame
    · rw [hmade, hbelow P hP q hPq hne]
  contents := h.tenants

/-- One more act, if what is drawn for it is new and the place of its directory is free. -/
theorem Kept.step (ht : f.IsTree) (h : Kept f parent acts c) (hallows : c.Allows act)
    (hfresh : AreFresh f parent (acts ++ [act])) :
    Kept f parent (acts ++ [act]) (c.next parent act) ∧
      Undisturbed (f.withDirectories parent) parent act c (c.next parent act) := by
  refine h.next ht hallows (fun root hroot => hfresh.free root ?_) fun root =>
    notMem_roots_of_next hfresh.distinct
  exact List.mem_filterMap.2 ⟨act, by simp, hroot⟩

theorem kept_of_runs (ht : start.files.IsTree) (hruns : Workshop.Runs parent start acts c)
    (hfresh : AreFresh start.files parent acts) : Kept start.files parent acts c := by
  -- By induction on the run; what is asked of all acts is so of those that came before the last.
  induction hruns with
  | start => exact ⟨.untouched, List.nodup_nil, fun _ hx => absurd hx List.not_mem_nil⟩
  | next hruns hallows ih => exact ((ih hfresh.before).step ht hallows hfresh).1

/-- Workspaces are opened in one directory, written in and left in any order, also where an attempt
to open one fails or an owner leaves by a failure. After each act they are isolated from one
another, and the act has disturbed nobody. For that the draws have to differ, and the places that
are named have to be free, also once the directory is made. -/
theorem isolated_next (ht : start.files.IsTree) (hruns : Workshop.Runs parent start acts c)
    (hallows : c.Allows act) (hfresh : AreFresh start.files parent (acts ++ [act])) :
    Isolated start.files parent (acts ++ [act]) (c.next parent act) ∧
      Undisturbed (start.files.withDirectories parent) parent act c (c.next parent act) := by
  have hkept := kept_of_runs ht hruns hfresh.before
  obtain ⟨hnext, hsame⟩ := hkept.step ht hallows hfresh
  exact ⟨hnext.isolated ht hfresh.distinct, hsame⟩

end Isolation

namespace Neighbours

/-- The directory in which the workspaces are. -/
def builds : Path := Path.ofText "builds"

/-- A host with one file, on which the directory has not been made yet. -/
def start : Host := { files := ⟨[(["keep"], .file [1])]⟩ }

/-- Two projects whose crates have the same name. -/
def first : Act :=
  .opens "a" ⟨1, "0a", by decide⟩ "My App!" "fn a" "\x7bname\x7d"

@[inherit_doc first]
def second : Act :=
  .opens "b" ⟨1, "0b", by decide⟩ "my_app" "fn b" "\x7bname\x7d"

/-- A project whose template cannot be filled in. -/
def third : Act :=
  .opens "c" ⟨2, "0a", by decide⟩ "c" "fn c" "\x7b"

/-- The workspaces once they are opened. -/
def opened : Workshop :=
  ((Workshop.next builds ⟨{}, start⟩ first).next builds second).next builds third

/-- The files once the second owner has built an artifact and changed the source. -/
def written : Files :=
  FileRun.plantAll (builds.child "my_app-1-0b")
    [(Path.ofText "target/my_app.wasm", .file [0]), (Path.ofText "src/main.rs", .file [1])]
    opened.host.files

def acts : List Act := [first, second, third, .writes "b" written]

def worked : Workshop :=
  opened.next builds (.writes "b" written)

/-- The first owner leaves by a failure. -/
def last : Act :=
  .leaves "a" (.error .cancelled)

theorem runs_opened : Workshop.Runs builds start [first, second, third] opened :=
  .next (.next (.next .start (by trivial)) (by trivial)) (by trivial)

theorem allows_written : opened.Allows (.writes "b" written) := by
  refine Workshop.mayWrite_plantAll (w := ⟨builds.child "my_app-1-0b", "my_app"⟩)
    (p := ["builds", "my_app-1-0b"]) (isTree_of_entries ?_) ?_ ?_ ?_ ?_
  · decide +kernel
  · decide +kernel
  · decide +kernel
  · decide +kernel
  · intro q hq
    exact at?_outside_of_entries (by decide +kernel) hq

theorem areFresh_acts : AreFresh start.files builds (acts ++ [last]) := by
  have ht : start.files.IsTree := isTree_of_entries (by decide)
  have hbelow : start.files.MakesNothingBelow builds := makesNothingBelow_of_no_up ht (by decide)
  have hfree : ∀ root ∈ namedRoots builds (acts ++ [last]), Free start.files builds root := by
    decide +kernel
  exact ⟨by decide +kernel, fun root hroot =>
    staysFree_of_free ht hbelow hroot (hfree root hroot)⟩

end Neighbours

open Neighbours in
/-- Two of three workspaces are open; the second owner has written, and the first one leaves by a
failure. -/
theorem isolated_next_neighbours :
    worked.session.opened.map (·.1) = ([['b'], ['a']] : List Text) ∧
      Isolated start.files builds (acts ++ [last]) (worked.next builds last) ∧
      Undisturbed (start.files.withDirectories builds) builds last worked
        (worked.next builds last) := by
  have hruns : Workshop.Runs builds start acts worked := .next runs_opened allows_written
  have hfind : worked.session.find? "a" = some ⟨builds.child "my_app-1-0a", "my_app"⟩ := by
    decide +kernel
  refine ⟨by decide +kernel, ?_⟩
  exact isolated_next (isTree_of_entries (by decide)) hruns ⟨_, hfind⟩ areFresh_acts

namespace Crossing

/-- A path of the directory that goes through another one and back. -/
def builds (detour : Text) : Path :=
  ((Path.ofText "builds").child detour).child ".."

def first : Act :=
  .opens "a" ⟨1700000000000000000, "01234567", by decide⟩ "demo" "x" "[package]"

def second : Act :=
  .opens "b" ⟨1700000000000000001, "01234567", by decide⟩ "demo" "y" "[package]"

/-- Some acts on an empty host, for which different and free names are drawn, leave something in the
directory, although no workspace is open. -/
def LeaveBehind (detour : Text) (acts : List Act) (name : Text) : Prop :=
  ∃ c, Workshop.Runs (builds detour) {} acts c ∧ (drawnKeys acts).Nodup ∧
    (∀ root ∈ namedRoots (builds detour) acts, Free {} (builds detour) root) ∧
    c.session.opened = [] ∧
    (({} : Files).withDirectories (builds detour)).DirectoryAt (builds detour) ["builds"] ∧
    ({} : Files).at? ["builds", name] = none ∧
    c.host.files.at? ["builds", name] = some .directory

end Crossing

open Crossing in
/-- What a path of the directory goes through is made in the directory and stays there. If it is the
first workspace, then, once that is gone, the path of the second one leads nowhere, so that one
stays. -/
theorem left_behind_crossing :
    LeaveBehind "x" [first, .leaves "a" (.ok ())] "x" ∧
      LeaveBehind "demo-1700000000000000000-01234567"
        [first, second, .leaves "a" (.ok ()), .leaves "b" (.ok ())]
        "demo-1700000000000000001-01234567" := by
  constructor
  · have hfirst : (Workshop.next (builds "x") ⟨{}, {}⟩ first).Allows (.leaves "a" (.ok ())) :=
      ⟨⟨(builds "x").child "demo-1700000000000000000-01234567", "demo"⟩, by decide +kernel⟩
    refine ⟨_, .next (.next .start (by trivial)) hfirst, ?_⟩
    exact ⟨by decide +kernel, by decide +kernel, by decide +kernel,
      ⟨by decide +kernel, by decide +kernel⟩, by decide, by decide +kernel⟩
  · let parent := builds "demo-1700000000000000000-01234567"
    have hfirst : ((Workshop.next parent ⟨{}, {}⟩ first).next parent second).Allows
        (.leaves "a" (.ok ())) :=
      ⟨⟨parent.child "demo-1700000000000000000-01234567", "demo"⟩, by decide +kernel⟩
    have hsecond : (((Workshop.next parent ⟨{}, {}⟩ first).next parent second).next parent
        (.leaves "a" (.ok ()))).Allows (.leaves "b" (.ok ())) :=
      ⟨⟨parent.child "demo-1700000000000000001-01234567", "demo"⟩, by decide +kernel⟩
    refine ⟨_, .next (.next (.next (.next .start (by trivial)) (by trivial)) hfirst) hsecond, ?_⟩
    exact ⟨by decide +kernel, by decide +kernel, by decide +kernel,
      ⟨by decide +kernel, by decide +kernel⟩, by decide, by decide +kernel⟩

end ContractBuild
