import ContractBuild.Proofs.Build.Naming
import ContractBuild.Proofs.Build.Workspace

/-!
# Workspaces in one directory

The trees in which several workspaces stand beside one another. The places are those of the tree on
which the directory has just been made: `Site` says that a path leads to a free place directly in
it. `Houses` says that at the places of some workspaces a directory stands, and that everything else
is as it was; `Rests` adds the trees on which no workspace stands yet.

Main statements: different workspaces have nothing in common (`Site.apart`). A workspace that is
opened stands beside the others and changes nothing outside its place (`Rests.add`); one that cannot
be opened leaves the others as they are (`Rests.refuse`), and so does removing one (`Houses.remove`,
`Houses.at?_remove`).
-/

set_option autoImplicit false

namespace ContractBuild

open Files Workspace

/-! ## Places of workspaces -/

/-- The place of a directory in the tree `d`: a free one directly in the directory of `parent`. -/
structure Site (d : Files) (parent root : Path) (p : Position) : Prop where
  located : d.locate false root = .ok p
  free : d.at? p = none
  child : ∃ P name, d.DirectoryAt parent P ∧ IsPlain name ∧ root = parent.child name ∧
    p = P ++ [name]

section Sites

variable {d : Files} {parent root root' : Path} {p p' q : Position}

theorem site_of_locate (hd : d.IsTree) {name : Text} (hname : IsPlain name)
    (hl : d.locate false (parent.child name) = .ok p) (hp : d.at? p = none) :
    Site d parent (parent.child name) p := by
  obtain ⟨P, -, hP, -⟩ := locate_child hd hl
  obtain ⟨-, hplace⟩ := (locate_child_iff hd hP hname.ne_up).1 hl
  exact ⟨hl, hp, P, name, hP, hname, rfl, hplace⟩

theorem Site.at?_below (hd : d.IsTree) (h : Site d parent root p) (hq : p <+: q) :
    d.at? q = none :=
  hd.at?_eq_none_below h.free hq

/-- What is free once the directory is made, was free before. -/
theorem Site.at?_before {f : Files} (h : Site (f.withDirectories parent) parent root p) :
    f.at? p = none := by
  cases hat : f.at? p with
  | none => rfl
  | some e =>
    have hfree := h.free
    rw [at?_of_grows (f.grows_withDirectories parent) hat] at hfree
    cases hfree

/-- Different directories have nothing in common. -/
theorem Site.apart (h : Site d parent root p) (h' : Site d parent root' p') (hne : root ≠ root')
    (hq : p <+: q) : ¬ p' <+: q := by
  obtain ⟨P, name, hP, -, rfl, rfl⟩ := h.child
  obtain ⟨P', name', hP', -, rfl, rfl⟩ := h'.child
  obtain rfl := hP.unique hP'
  intro hq'
  -- Both are entries of one directory, so they are equally long on the way to `q`.
  have hsame : P ++ [name] = P ++ [name'] :=
    List.IsPrefix.eq_of_length (List.prefix_of_prefix_length_le hq hq' (by simp)) (by simp)
  obtain rfl := List.singleton_inj.1 (List.append_cancel_left hsame)
  exact hne rfl

end Sites

/-! ## Trees in which workspaces stand -/

/-- The position does not belong to any of the workspaces. -/
def IsOutside (d : Files) (parent : Path) (ws : List Workspace) (q : Position) : Prop :=
  ∀ w ∈ ws, ∀ p, Site d parent w.root p → ¬ p <+: q

/-- In the tree `g` the workspaces stand, each at its place; everything else is as in `d`. -/
structure Houses (d : Files) (parent : Path) (ws : List Workspace) (g : Files) : Prop where
  tree : g.IsTree
  directory : ∃ P, d.DirectoryAt parent P
  distinct : (ws.map (·.root)).Nodup
  stands : ∀ w ∈ ws, ∃ p, Site d parent w.root p ∧ g.at? p = some .directory
  outside : ∀ q, IsOutside d parent ws q → g.at? q = d.at? q

theorem isTree_of_same {f g : Files} (hf : f.IsTree) (h : ∀ q, g.at? q = f.at? q) : g.IsTree := by
  intro q e hq
  rw [h] at hq ⊢
  exact hf q e hq

namespace Houses

variable {d g k : Files} {parent : Path} {ws ws' : List Workspace} {w : Workspace}
  {p q : Position}

theorem none (hd : d.IsTree) {P : Position} (hP : d.DirectoryAt parent P) :
    Houses d parent [] d :=
  ⟨hd, ⟨P, hP⟩, List.nodup_nil, fun _ hw => absurd hw List.not_mem_nil, fun _ _ => rfl⟩

/-- Every entry of `d` is there. -/
theorem at?_of (hd : d.IsTree) (h : Houses d parent ws g) {e : Entry} (hq : d.at? q = some e) :
    g.at? q = some e := by
  rw [h.outside q, hq]
  intro w _ p hp hpq
  rw [hp.at?_below hd hpq] at hq
  cases hq

theorem directoryAt (hd : d.IsTree) (h : Houses d parent ws g) {P : Position}
    (hP : d.DirectoryAt parent P) : g.DirectoryAt parent P :=
  hP.keeps (.of_fewer fun _ _ => h.at?_of hd)

/-- Paths of entries of the directory are resolved as in `d`. -/
theorem locate_iff (hd : d.IsTree) (h : Houses d parent ws g) {name : Text}
    (hname : IsPlain name) :
    g.locate false (parent.child name) = .ok p ↔ d.locate false (parent.child name) = .ok p := by
  obtain ⟨P, hP⟩ := h.directory
  rw [locate_child_iff hd hP hname.ne_up,
    locate_child_iff h.tree (h.directoryAt hd hP) hname.ne_up]

theorem located (hd : d.IsTree) (h : Houses d parent ws g) {root : Path}
    (hp : Site d parent root p) : g.locate false root = .ok p := by
  obtain ⟨P, name, -, hname, rfl, -⟩ := hp.child
  exact (h.locate_iff hd hname).2 hp.located

theorem perm (h : Houses d parent ws g) (hp : ws.Perm ws') : Houses d parent ws' g where
  tree := h.tree
  directory := h.directory
  distinct := (hp.map _).nodup_iff.1 h.distinct
  stands w hw := h.stands w (hp.mem_iff.2 hw)
  outside q hq := h.outside q fun w hw => hq w (hp.mem_iff.1 hw)

theorem same (h : Houses d parent ws g) (hk : ∀ q, k.at? q = g.at? q) : Houses d parent ws k where
  tree := isTree_of_same h.tree hk
  directory := h.directory
  distinct := h.distinct
  stands w hw := by
    obtain ⟨p, hp, hat⟩ := h.stands w hw
    exact ⟨p, hp, by rw [hk, hat]⟩
  outside q hq := by rw [hk, h.outside q hq]

/-- Where a workspace is to stand whose directory has another name than those of all others,
nothing stands yet. -/
theorem vacant (hd : d.IsTree) (h : Houses d parent ws g) (hp : Site d parent w.root p)
    (hnew : w.root ∉ ws.map (·.root)) (hq : p <+: q) : g.at? q = Option.none := by
  rw [h.outside q, hp.at?_below hd hq]
  intro w' hw' p' hp'
  exact hp.apart hp' (fun hroot => hnew (List.mem_map.2 ⟨w', hw', hroot.symm⟩)) hq

/-- Changes at the place of one workspace, which may be a new one. -/
theorem change (h : Houses d parent ws g) (hp : Site d parent w.root p) (hk : k.IsTree)
    (hkp : k.at? p = some .directory) (hout : ∀ q, ¬ p <+: q → k.at? q = g.at? q)
    (hdistinct : (ws'.map (·.root)).Nodup) (hw : w ∈ ws') (hws : ∀ x ∈ ws, x ∈ ws')
    (hws' : ∀ x ∈ ws', x = w ∨ x ∈ ws) : Houses d parent ws' k where
  tree := hk
  directory := h.directory
  distinct := hdistinct
  stands x hx := by
    -- The changed place is that of `w`, old or new; every other one is apart from it.
    by_cases hroot : x.root = w.root
    · exact ⟨p, hroot ▸ hp, hkp⟩
    · rcases hws' x hx with rfl | hx
      · exact absurd rfl hroot
      · obtain ⟨p', hp', hat⟩ := h.stands x hx
        exact ⟨p', hp', by rw [hout p' (hp'.apart hp hroot List.prefix_rfl), hat]⟩
  outside q hq := by
    rw [hout q (hq w hw p hp), h.outside q fun x hx => hq x (hws x hx)]

/-- The owner of a workspace writes below its directory. -/
theorem write (h : Houses d parent ws g) (hw : w ∈ ws) (hp : Site d parent w.root p)
    (hk : k.IsTree) (hkp : k.at? p = some .directory)
    (hout : ∀ q, ¬ p <+: q → k.at? q = g.at? q) : Houses d parent ws k :=
  h.change hp hk hkp hout h.distinct hw (fun _ hx => hx) fun _ hx => .inr hx

/-- A workspace is made. -/
theorem add (h : Houses d parent ws g) (hp : Site d parent w.root p)
    (hnew : w.root ∉ ws.map (·.root)) (hk : k.IsTree) (hkp : k.at? p = some .directory)
    (hout : ∀ q, ¬ p <+: q → k.at? q = g.at? q) : Houses d parent (w :: ws) k :=
  h.change hp hk hkp hout (List.nodup_cons.2 ⟨hnew, h.distinct⟩) List.mem_cons_self
    (fun _ hx => List.mem_cons_of_mem _ hx) fun _ hx => List.mem_cons.1 hx

theorem withoutTree (hd : d.IsTree) (h : Houses d parent ws g) (hw : w ∈ ws)
    (hp : Site d parent w.root p) : g.withoutTree w.root = g.without p := by
  obtain ⟨p', hp', hat⟩ := h.stands w hw
  obtain rfl := locate_unique hp.located hp'.located
  exact withoutTree_of_locate (h.located hd hp) hat

theorem root_ne (h : Houses d parent (w :: ws) g) {x : Workspace} (hx : x ∈ ws) :
    x.root ≠ w.root := fun hroot =>
  (List.nodup_cons.1 h.distinct).1 (List.mem_map.2 ⟨x, hx, hroot⟩)

/-- A workspace is removed. -/
theorem remove (hd : d.IsTree) (h : Houses d parent (w :: ws) g) :
    Houses d parent ws (g.withoutTree w.root) := by
  obtain ⟨p, hp, -⟩ := h.stands w List.mem_cons_self
  rw [h.withoutTree hd List.mem_cons_self hp]
  refine ⟨h.tree.without p, h.directory, (List.nodup_cons.1 h.distinct).2, fun x hx => ?_,
    fun q hq => ?_⟩
  · obtain ⟨p', hp', hat⟩ := h.stands x (List.mem_cons_of_mem _ hx)
    have hapart := hp'.apart hp (h.root_ne hx) List.prefix_rfl
    exact ⟨p', hp', by rw [at?_without_outside _ hapart, hat]⟩
  -- At the place of the workspace there was nothing before it was made, as there is nothing now.
  · by_cases hpq : p <+: q
    · rw [at?_without_below _ (not_isGround_of_at? hp.free (by simp)) hpq, hp.at?_below hd hpq]
    · rw [at?_without_outside _ hpq, h.outside q]
      intro x hx p' hp'
      rcases List.mem_cons.1 hx with rfl | hx
      · obtain rfl := locate_unique hp.located hp'.located
        exact hpq
      · exact hq x hx p' hp'

/-- Removing a workspace leaves what is at the places of the others. -/
theorem at?_remove (hd : d.IsTree) (h : Houses d parent (w :: ws) g) {x : Workspace} (hx : x ∈ ws)
    (hp : Site d parent x.root p) (hq : p <+: q) : (g.withoutTree w.root).at? q = g.at? q := by
  obtain ⟨p', hp', -⟩ := h.stands w List.mem_cons_self
  rw [h.withoutTree hd List.mem_cons_self hp',
    at?_without_outside _ (hp.apart hp' (h.root_ne hx) hq)]

end Houses

/-- The tree on which workspaces are opened: at first it is as it was, an attempt that fails may
leave only the directory with those above it, and once there is a workspace they all stand in that.
-/
inductive Rests (f : Files) (parent : Path) : List Workspace → Files → Prop
  | untouched : Rests f parent [] f
  | made : Rests f parent [] (f.withDirectories parent)
  | housed {ws : List Workspace} {g : Files} :
      Houses (f.withDirectories parent) parent ws g → Rests f parent ws g

namespace Rests

variable {f g k : Files} {parent : Path} {ws : List Workspace}

theorem isTree (ht : f.IsTree) (h : Rests f parent ws g) : g.IsTree := by
  cases h with
  | untouched => exact ht
  | made => exact ht.withDirectories parent
  | housed h => exact h.tree

theorem distinct (h : Rests f parent ws g) : (ws.map (·.root)).Nodup := by
  cases h with
  | untouched => exact List.nodup_nil
  | made => exact List.nodup_nil
  | housed h => exact h.distinct

/-- Outside the places of the workspaces the tree is as it was, or with the directory made. -/
theorem outside (h : Rests f parent ws g) {q : Position}
    (hq : IsOutside (f.withDirectories parent) parent ws q) :
    g.at? q = f.at? q ∨ g.at? q = (f.withDirectories parent).at? q := by
  cases h with
  | untouched => exact .inl rfl
  | made => exact .inr rfl
  | housed h => exact .inr (h.outside q hq)

/-- What was there first is there. -/
theorem kept (ht : f.IsTree) (h : Rests f parent ws g) {q : Position} {e : Entry}
    (hq : f.at? q = some e) : g.at? q = some e := by
  have hout : IsOutside (f.withDirectories parent) parent ws q := by
    intro w _ p hp hpq
    rw [ht.at?_eq_none_below hp.at?_before hpq] at hq
    cases hq
  rcases h.outside hout with hsame | hmade
  · rw [hsame, hq]
  · rw [hmade, at?_of_grows (f.grows_withDirectories parent) hq]

/-- What is new outside the places of the workspaces was made for the directory. -/
theorem added (ht : f.IsTree) (h : Rests f parent ws g) {q : Position} {e : Entry}
    (hout : IsOutside (f.withDirectories parent) parent ws q) (hq : g.at? q = some e)
    (hnone : f.at? q = none) :
    e = .directory ∧ ∃ a, Path.IsAbove a parent ∧ (f.withDirectories parent).DirectoryAt a q := by
  rcases h.outside hout with hsame | hmade
  · rw [hsame, hnone] at hq
    cases hq
  · rw [hmade] at hq
    exact new_of_grows ht (f.grows_withDirectories parent) hq hnone

/-- Making the directory: while no workspace stands it is made as on the tree that was there first,
and later nothing has to be made. -/
theorem prepare (ht : f.IsTree) (h : Rests f parent ws g) :
    (ws = [] ∧ g.withDirectories parent = f.withDirectories parent) ∨
      (Houses (f.withDirectories parent) parent ws g ∧ g.withDirectories parent = g) := by
  cases h with
  | untouched => exact .inl ⟨rfl, rfl⟩
  | made => exact .inl ⟨rfl, withDirectories_idem ht parent⟩
  | housed h =>
    obtain ⟨P, hP⟩ := h.directory
    exact .inr ⟨h, withDirectories_of_directoryAt (h.directoryAt (ht.withDirectories parent) hP)⟩

/-- Once the directory is made, the workspaces stand in it. -/
theorem houses (ht : f.IsTree) (h : Rests f parent ws g) {P : Position}
    (hP : (f.withDirectories parent).DirectoryAt parent P) :
    Houses (f.withDirectories parent) parent ws (g.withDirectories parent) := by
  rcases h.prepare ht with ⟨rfl, hg⟩ | ⟨hhouses, hg⟩
  · rw [hg]
    exact .none (ht.withDirectories parent) hP
  · rw [hg]
    exact hhouses

theorem withDirectories (ht : f.IsTree) (h : Rests f parent ws g) :
    Rests f parent ws (g.withDirectories parent) := by
  rcases h.prepare ht with ⟨rfl, hg⟩ | ⟨hhouses, hg⟩
  · rw [hg]
    exact .made
  · rw [hg]
    exact .housed hhouses

/-- While a workspace stands, the directory need not be made. -/
theorem withDirectories_eq (ht : f.IsTree) (h : Rests f parent ws g) (hws : ws ≠ []) :
    g.withDirectories parent = g := by
  rcases h.prepare ht with ⟨hnil, -⟩ | ⟨-, hg⟩
  · exact absurd hnil hws
  · exact hg

/-- The place of the next workspace: it leads where it would lead at first, and nothing is there. -/
theorem site (ht : f.IsTree) (h : Rests f parent ws g) {w : Workspace} {name : Text}
    (hname : IsPlain name) (hroot : w.root = parent.child name)
    (hfresh : StaysFree f parent w.root)
    (hnew : w.root ∉ ws.map (·.root)) {p : Position}
    (hl : (g.withDirectories parent).locate false w.root = .ok p) :
    Site (f.withDirectories parent) parent w.root p ∧ (g.withDirectories parent).at? p = none ∧
      g.at? p = none := by
  have hd := ht.withDirectories parent
  have hsite : (f.withDirectories parent).locate false w.root = .ok p →
      Site (f.withDirectories parent) parent w.root p := by
    intro hl
    have hnone := hfresh p hl
    rw [hroot] at hl ⊢
    exact site_of_locate hd hname hl hnone
  rcases h.prepare ht with ⟨rfl, hg⟩ | ⟨hhouses, hg⟩
  -- No workspace stands, and the directory is perhaps still to be made.
  · rw [hg] at hl ⊢
    refine ⟨hsite hl, hfresh p hl, ?_⟩
    cases hat : g.at? p with
    | none => rfl
    | some e =>
      have hnone := hfresh p hl
      rw [← hg, at?_of_grows (g.grows_withDirectories parent) hat] at hnone
      cases hnone
  -- The directory is there, and what stands in it has other names.
  · rw [hg, hroot, hhouses.locate_iff hd hname, ← hroot] at hl
    rw [hg]
    have hvacant := hhouses.vacant hd (hsite hl) hnew List.prefix_rfl
    exact ⟨hsite hl, hvacant, hvacant⟩

section Opening

variable {w : Workspace} {name source template : Text} {P : Position}

/-- A workspace that is opened stands beside the others, new, and nothing else has changed. -/
theorem add (ht : f.IsTree) (h : Rests f parent ws g) (hname : IsPlain name)
    (hroot : w.root = parent.child name)
    (hfresh : StaysFree f parent w.root)
    (hnew : w.root ∉ ws.map (·.root)) (hfill : w.filling source template g = (.ok (), k)) :
    ∃ manifest p, Template.expand template w.crate = .ok manifest ∧
      Site (f.withDirectories parent) parent w.root p ∧
      Houses (f.withDirectories parent) parent (w :: ws) k ∧
      IsNew k p (Text.encode manifest) (Text.encode source) ∧
      ∀ q, ¬ p <+: q → k.at? q = (g.withDirectories parent).at? q := by
  have hfree : Free g parent w.root := fun p hl => (h.site ht hname hroot hfresh hnew hl).2.2
  obtain ⟨-, hfilled⟩ := filling_outcome hroot (h.isTree ht) hfree source template
  rw [hfill] at hfilled
  obtain ⟨manifest, p, l, hmanifest, hempty, hstands, hmade, rfl⟩ := hfilled rfl
  obtain ⟨hsite, hvacant, -⟩ := h.site ht hname hroot hfresh hnew hstands.located
  obtain ⟨P, -, hP, -⟩ := hsite.child
  have hhouses := (h.houses ht hP).add hsite hnew hstands.after hstands.filled hstands.outside
  refine ⟨manifest, p, hmanifest, hsite, hhouses, ?_, hstands.outside⟩
  -- The directory is not one of those above it, which are there before it is made.
  rcases hmade with rfl | rfl
  · rw [hempty.filled] at hvacant
    cases hvacant
  · exact isNew_filledAt hstands.before hvacant _ _

/-- A workspace that cannot be opened leaves the others as they are. -/
theorem refuse (ht : f.IsTree) (h : Rests f parent ws g) (hname : IsPlain name)
    (hroot : w.root = parent.child name)
    (hfresh : StaysFree f parent w.root)
    (hnew : w.root ∉ ws.map (·.root)) {e : Failure}
    (hfill : w.filling source template g = (.error e, k)) :
    Rests f parent ws (k.withoutTree w.root) ∧
      (ws ≠ [] → ∀ q, (k.withoutTree w.root).at? q = g.at? q) := by
  have hg := h.isTree ht
  have hfree : Free g parent w.root := fun p hl => (h.site ht hname hroot hfresh hnew hl).2.2
  obtain ⟨hreaches, -⟩ := filling_outcome hroot hg hfree source template
  rw [hfill] at hreaches
  have hleaves := leaves_of_reaches hg hfree hreaches
  generalize k.withoutTree w.root = l at hleaves ⊢
  cases hleaves with
  | before => exact ⟨h, fun _ _ => rfl⟩
  | parents _ => exact ⟨h.withDirectories ht, fun hws q => by rw [h.withDirectories_eq ht hws]⟩
  | @removed p l hl houtside hbelow =>
    -- The workspace was made in part and taken away again, so the directory is as it was made.
    obtain ⟨hsite, hvacant, -⟩ := h.site ht hname hroot hfresh hnew hl
    obtain ⟨P, -, hP, -⟩ := hsite.child
    have hsame : ∀ q, l.at? q = (g.withDirectories parent).at? q := by
      intro q
      by_cases hq : p <+: q
      · rw [hbelow q hq, (hg.withDirectories parent).at?_eq_none_below hvacant hq]
      · exact houtside q hq
    refine ⟨.housed ((h.houses ht hP).same hsame), fun hws q => ?_⟩
    rw [hsame, h.withDirectories_eq ht hws]

end Opening

end Rests

end ContractBuild
