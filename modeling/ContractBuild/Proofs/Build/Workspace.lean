import ContractBuild.Build.Workspace
import ContractBuild.Proofs.Host.Process

/-!
# Making and removing a workspace

What an attempt to make a workspace leaves, if the place of its directory is free. `Files.Stands`
says that a directory stands at its place and that nothing has changed outside it; the work in a
workspace keeps it as long as it stays below the directory.

Main statements: an attempt leaves the tree as it was, or with the directories above the workspace,
or with the workspace standing (`Workspace.Reaches`). An attempt that succeeds leaves the manifest
and the source in it (`Workspace.filling_outcome`). Removing the workspace takes it away with all
that is below it and leaves everything else (`Files.Stands.withoutTree`).
-/

set_option autoImplicit false

namespace ContractBuild

open FileRun
open Relation (ReflTransGen)

/-! ## A directory at its place -/

namespace Files

/-- In the tree `g` a directory stands at `p`, where `root` leads to in the tree `d`. Outside it
`g` and `d` are the same. -/
structure Stands (d : Files) (root : Path) (p : Position) (g : Files) : Prop where
  located : d.locate false root = .ok p
  before : d.IsTree
  after : g.IsTree
  keeps : d.Keeps g
  filled : g.at? p = some .directory
  outside : ∀ q, ¬ p <+: q → g.at? q = d.at? q

namespace Stands

variable {d g : Files} {root : Path} {p : Position}

theorem locate (h : Stands d root p g) : g.locate false root = .ok p :=
  (DirectoryAt.of_filled h.before h.keeps h.located h.filled).1

theorem directoryAt (h : Stands d root p g) : g.DirectoryAt root p :=
  (DirectoryAt.of_filled h.before h.keeps h.located h.filled).2

/-- Changes below the directory that remove nothing keep it. -/
theorem edits (h : Stands d root p g) {k : Files} (hk : ReflTransGen Edit g k)
    (hout : ∀ q, ¬ p <+: q → k.at? q = g.at? q) : Stands d root p k := by
  obtain ⟨htree, hkeeps⟩ := isTree_keeps_of_edits h.after hk
  refine ⟨h.located, h.before, htree, h.keeps.trans hkeeps, hkeeps.directory h.filled, ?_⟩
  intro q hq
  rw [hout q hq, h.outside q hq]

/-- An entry that is put below the directory keeps it. -/
theorem put (h : Stands d root p g) {q : Position} {e : Entry} (hput : g.Edit (g.put q e))
    (hq : g.at? q ≠ some .directory) (hpq : p <+: q) : Stands d root p (g.put q e) := by
  refine h.edits (.single hput) fun r hr => ?_
  rw [at?_put _ _ (not_isGround_of_at? rfl hq), if_neg]
  rintro rfl
  exact hr hpq

/-- Removing the directory removes what is at its place and below, and nothing else. -/
theorem withoutTree (h : Stands d root p g) : g.withoutTree root = g.without p :=
  withoutTree_of_locate h.locate h.filled

/-- A directory that is put where nothing stands, stands there. -/
theorem of_vacant (hd : d.IsTree) (h : d.vacant root = .ok p) :
    Stands d root p (d.put p .directory) := by
  obtain ⟨hl, hp⟩ := vacant_eq_ok_iff.1 h
  obtain ⟨htree, hkeeps⟩ := (Edit.directory h).isTree_keeps hd
  have hat := d.at?_put .directory (not_isGround_of_at? hp (by simp))
  refine ⟨hl, hd, htree, hkeeps, by rw [hat, if_pos rfl], ?_⟩
  intro q hq
  rw [hat, if_neg]
  rintro rfl
  exact hq List.prefix_rfl

/-- A directory that stands in the tree stands at its place. -/
theorem of_located (hd : d.IsTree) (hl : d.locate false root = .ok p)
    (hp : d.at? p = some .directory) : Stands d root p d :=
  ⟨hl, hd, hd, .refl d, hp, fun _ _ => rfl⟩

end Stands

/-- No link stands at the position or below it. -/
def NoLinks (g : Files) (p : Position) : Prop :=
  ∀ q t, p <+: q → g.at? q ≠ some (.link t)

theorem NoLinks.put {g : Files} {p : Position} (h : g.NoLinks p) {q : Position} {e : Entry}
    (hq : q.isGround = false) (he : ∀ t, e ≠ .link t) : (g.put q e).NoLinks p := by
  intro r t hr
  rw [at?_put _ _ hq]
  split
  · intro heq
    exact he t (Option.some.inj heq)
  · exact h r t hr

end Files

/-! ## The attempt -/

namespace Workspace

open Files

variable {f : Files} {parent root : Path} {name : Text}

/-- The place of a new directory is free: where it leads once the directories above it are made,
nothing stood before. -/
def Free (f : Files) (parent root : Path) : Prop :=
  ∀ p, (f.withDirectories parent).locate false root = .ok p → f.at? p = none

/-- The place of a new directory is free also once the directories above it are made: it is not one
of them. -/
def StaysFree (f : Files) (parent root : Path) : Prop :=
  ∀ p, (f.withDirectories parent).locate false root = .ok p →
    (f.withDirectories parent).at? p = none

/-- Whether nothing stands where a path leads can be found out. -/
instance decidablePlace (f g : Files) (root : Path) :
    Decidable (∀ p, f.locate false root = .ok p → g.at? p = none) :=
  match f.locate false root with
  | .ok p =>
    decidable_of_iff (g.at? p = none)
      ⟨fun hp _ hq => Except.ok.inj hq ▸ hp, fun hfree => hfree p rfl⟩
  | .error _ => .isTrue fun _ hp => nomatch hp

instance (f : Files) (parent root : Path) : Decidable (Free f parent root) :=
  decidablePlace (f.withDirectories parent) f root

instance (f : Files) (parent root : Path) : Decidable (StaysFree f parent root) :=
  decidablePlace (f.withDirectories parent) (f.withDirectories parent) root

theorem Free.not_directoryAt (hfree : Free f parent root) (ht : f.IsTree) (p : Position) :
    ¬ f.DirectoryAt root p := by
  intro hd
  obtain ⟨q, hl, hq⟩ := hd.locate_false
  exact hq (hfree q (locate_keeps (ht.keeps_withDirectories parent) hl hq))

/-- Below a free place there is nothing but directories that are made on the way. -/
theorem Free.noLinks (hfree : Free f parent root) (ht : f.IsTree) {p : Position}
    (hp : (f.withDirectories parent).locate false root = .ok p) :
    (f.withDirectories parent).NoLinks p := by
  intro q t hq hat
  have hnone := ht.at?_eq_none_below (hfree p hp) hq
  have hdir := (new_of_grows ht (f.grows_withDirectories parent) hat hnone).1
  cases hdir

/-- Making the directory of a workspace: either it stands at its place, being new or one of those
above it, or there is an error and at most the directories above it are made. -/
theorem stands_or_error (ht : f.IsTree) (hfree : Free f parent (parent.child name))
    {r : Except FileError Unit} {g : Files}
    (h : (makeDirectories true (parent.child name)).on f = (r, g)) :
    (r = .ok () ∧ ∃ p, Stands (f.withDirectories parent) (parent.child name) p g ∧ g.NoLinks p ∧
        (g = f.withDirectories parent ∨ g = (f.withDirectories parent).put p .directory)) ∨
      ((∃ e, r = .error e) ∧ (g = f ∨ g = f.withDirectories parent)) := by
  have hmade : ∀ {r' k}, (makeDirectories true parent).on f = (r', k) →
      k = f.withDirectories parent := fun hk => (congrArg Prod.snd hk).symm
  cases makesChild ht h with
  | @put k p hk hq =>
    obtain rfl := hmade hk
    obtain ⟨hl, hp⟩ := vacant_eq_ok_iff.1 hq
    refine .inl ⟨rfl, p, .of_vacant (ht.withDirectories parent) hq, ?_, .inr rfl⟩
    exact (hfree.noLinks ht hl).put (not_isGround_of_at? hp (by simp)) (by simp)
  | @settled _ e hk _ =>
    cases hr : ((ensureDirectory true (parent.child name) e).on g).1 with
    | error e' =>
      refine .inr ⟨⟨e', rfl⟩, ?_⟩
      rcases hk with rfl | hk
      · exact .inl rfl
      · exact .inr (hmade hk)
    | ok =>
      -- The directory was there already, so it is one of those above, which are new.
      obtain ⟨-, q, hd⟩ := directoryAt_of_ensureDirectory hr
      rcases hk with rfl | hk
      · exact absurd hd (hfree.not_directoryAt ht q)
      · obtain rfl := hmade hk
        obtain ⟨p, hl, hp⟩ := hd.locate_false
        obtain ⟨e', he'⟩ := Option.ne_none_iff_exists'.1 hp
        obtain ⟨rfl, -⟩ := new_of_grows ht (f.grows_withDirectories parent) he' (hfree p hl)
        exact .inl
          ⟨rfl, p, .of_located (ht.withDirectories parent) hl he', hfree.noLinks ht hl, .inl rfl⟩
  | stuck hk => exact .inr ⟨⟨_, rfl⟩, .inr (hmade hk)⟩

/-- What an attempt to make a workspace leaves. -/
inductive Reaches (f : Files) (parent root : Path) : Files → Prop
  | before : Reaches f parent root f
  | parents : Reaches f parent root (f.withDirectories parent)
  | stands {p : Position} {g : Files} :
      Stands (f.withDirectories parent) root p g → Reaches f parent root g

/-- The names of the entries of a new workspace. -/
abbrev sourceDirectoryName : Text := "src"

@[inherit_doc sourceDirectoryName]
abbrev manifestName : Text := "Cargo.toml"

@[inherit_doc sourceDirectoryName]
abbrev sourceName : Text := "main.rs"

/-- The tree in which a workspace is filled at `p`, from the one in which it is empty. -/
def filledAt (k : Files) (p : Position) (manifest source : Bytes) : Files :=
  ((k.put (p ++ [sourceDirectoryName]) .directory).put (p ++ [manifestName])
    (.file manifest)).put (p ++ [sourceDirectoryName] ++ [sourceName]) (.file source)

/-- What stands in the directory of a new workspace, by the names that lead there from it. -/
def newEntry? (manifest source : Bytes) (names : List Text) : Option Entry :=
  if names = [sourceDirectoryName, sourceName] then some (.file source)
  else if names = [manifestName] then some (.file manifest)
  else if names = [sourceDirectoryName] then some .directory
  else if names = [] then some .directory
  else none

/-- The directory at the position holds a manifest and a source, and nothing else. -/
def IsNew (f : Files) (p : Position) (manifest source : Bytes) : Prop :=
  ∀ names, f.at? (p ++ names) = newEntry? manifest source names

/-- What stands in the directory of a workspace that is filled, by the names that lead there. -/
theorem at?_filledAt (k : Files) {p : Position} (hground : p.isGround = false)
    (manifest source : Bytes) (names : List Text) :
    (filledAt k p manifest source).at? (p ++ names) =
      if names = [sourceDirectoryName, sourceName] then some (.file source)
      else if names = [manifestName] then some (.file manifest)
      else if names = [sourceDirectoryName] then some .directory
      else k.at? (p ++ names) := by
  have hbelow : ∀ names : List Text, Position.isGround (p ++ names) = false := by
    intro names
    cases hg : Position.isGround (p ++ names) with
    | false => rfl
    | true =>
      rw [isGround_of_below (List.prefix_append p names) hg] at hground
      cases hground
  rw [filledAt, List.append_assoc, at?_put _ _ (hbelow _), at?_put _ _ (hbelow _),
    at?_put _ _ (hbelow _)]
  simp only [List.append_right_inj, List.singleton_append]

/-- A workspace that was made and filled where nothing stood is new. -/
theorem isNew_filledAt {d : Files} (hd : d.IsTree) {p : Position} (hp : d.at? p = none)
    (manifest source : Bytes) :
    IsNew (filledAt (d.put p .directory) p manifest source) p manifest source := by
  have hground : p.isGround = false := not_isGround_of_at? hp (by simp)
  have hself : ∀ names, (p ++ names = p) = (names = []) := fun names => by simp
  intro names
  rw [at?_filledAt _ hground, at?_put _ _ hground,
    hd.at?_eq_none_below hp (List.prefix_append p names), newEntry?]
  simp only [hself]

/-- A file is written to the place that its name has in the directory. -/
theorem put_of_written {g k : Files} (ht : g.IsTree) {a : Path} {q : Position} {name : Text}
    {content : Bytes} (hd : g.DirectoryAt a q) (hname : name ≠ Position.up)
    (hl : ∀ t, g.at? (q ++ [name]) ≠ some (.link t))
    (h : g.written (a.child name) content = .ok k) :
    g.at? (q ++ [name]) ≠ some .directory ∧ k = g.put (q ++ [name]) (.file content) := by
  obtain ⟨r, hr, hnd, hk⟩ := written_eq_ok_iff.1 h
  obtain rfl := eq_of_locate_child ht hd hr hname hl
  exact ⟨hnd, hk⟩

/-- Filling a workspace as a function of the files alone: the answer, and the files after it. -/
def filling (w : Workspace) (source template : Text) (f : Files) : Except Failure Unit × Files :=
  match (makeDirectories false w.sourceDirectory).on f with
  | (.error e, g) => (.error (.file e), g)
  | (.ok (), g) =>
    match Template.expand template w.crate with
    | .error e => (.error (.template e), g)
    | .ok manifest =>
      match g.written w.manifestPath (Text.encode manifest) with
      | .error e => (.error (.file e), g)
      | .ok k =>
        match k.written w.sourcePath (Text.encode source) with
        | .error e => (.error (.file e), k)
        | .ok l => (.ok (), l)

theorem on_fill (w : Workspace) (source template : Text) (h : Host) :
    (w.fill source template).on h =
      ((w.filling source template h.files).1,
        { h with files := (w.filling source template h.files).2 }) := by
  have hon : ∀ {work : FileRun Unit} {h : Host}, (Run.onFiles work).on h =
      ((work.on h.files).1.mapError .file, { h with files := (work.on h.files).2 }) :=
    Run.on_onFiles _ _
  simp only [fill, filling, Run.on_bind, hon, Run.on_answer, on_writeFile]
  cases hd : (makeDirectories false w.sourceDirectory).on h.files with
  | mk r g =>
    cases r with
    | error e => rfl
    | ok =>
      simp only [Except.mapError]
      cases Template.expand template w.crate with
      | error e => rfl
      | ok manifest =>
        simp only
        cases g.written w.manifestPath (Text.encode manifest) with
        | error e => rfl
        | ok k =>
          simp only
          cases k.written w.sourcePath (Text.encode source) <;> rfl

/-- A workspace that is filled stands where its path leads. -/
theorem directoryAt_of_filling (ht : f.IsTree) {w : Workspace} {source template : Text} {g : Files}
    (h : w.filling source template f = (.ok (), g)) :
    g.IsTree ∧ ∃ p, g.DirectoryAt w.root p := by
  unfold filling at h
  split at h
  · cases h
  · rename_i k hd
    obtain ⟨q, hq⟩ := directoryAt_of_ok ht hd
    have hkt := isTree_of_on ht hd
    obtain ⟨p, -, hp, -⟩ := locate_child hkt hq.1
    split at h
    · cases h
    · split at h
      · cases h
      · rename_i l hl
        obtain ⟨hlt, hkeeps⟩ := (Edit.file hl).isTree_keeps hkt
        split at h
        · cases h
        · rename_i l' hl'
          cases h
          obtain ⟨hlt', hkeeps'⟩ := (Edit.file hl').isTree_keeps hlt
          exact ⟨hlt', p, (hp.keeps hkeeps).keeps hkeeps'⟩

/-- The directory of the source is made in the directory of the workspace, or there is an error. -/
theorem sourceDirectory_outcome (ht : f.IsTree) (hfree : Free f parent (parent.child name))
    {r : Except FileError Unit} {g : Files}
    (h : (makeDirectories false ((parent.child name).child sourceDirectoryName)).on f = (r, g)) :
    (r = .ok () ∧ ∃ p k, Stands (f.withDirectories parent) (parent.child name) p k ∧
        k.NoLinks p ∧
        (k = f.withDirectories parent ∨ k = (f.withDirectories parent).put p .directory) ∧
        k.vacant ((parent.child name).child sourceDirectoryName) =
          .ok (p ++ [sourceDirectoryName]) ∧
        g = k.put (p ++ [sourceDirectoryName]) .directory) ∨
      ((∃ e, r = .error e) ∧ Reaches f parent (parent.child name) g) := by
  -- the directory of the source has that of the workspace above it, which is made the same way in
  -- all three cases
  have hmade : ∀ {r' k}, (makeDirectories true (parent.child name)).on f = (r', k) →
      (r' = .ok () ∧ ∃ p, Stands (f.withDirectories parent) (parent.child name) p k ∧
          k.NoLinks p ∧
          (k = f.withDirectories parent ∨ k = (f.withDirectories parent).put p .directory)) ∨
        ((∃ e, r' = .error e) ∧ Reaches f parent (parent.child name) k) := by
    intro r' k hk
    rcases stands_or_error ht hfree hk with hstands | ⟨he, rfl | rfl⟩
    · exact .inl hstands
    · exact .inr ⟨he, .before⟩
    · exact .inr ⟨he, .parents⟩
  cases makesChild ht h with
  | @put k q hk hq =>
    rcases hmade hk with ⟨-, p, hs, hl, hnew⟩ | ⟨⟨e, he⟩, -⟩
    · have hlq := (vacant_eq_ok_iff.1 hq).1
      obtain rfl := eq_of_locate_child hs.after hs.directoryAt hlq (by decide)
        fun t => hl _ t (List.prefix_append _ _)
      exact .inl ⟨rfl, p, k, hs, hl, hnew, hq, rfl⟩
    · cases he
  | @settled _ e hk _ =>
    refine .inr ⟨⟨e, rfl⟩, ?_⟩
    rcases hk with rfl | hk
    · exact .before
    · rcases hmade hk with ⟨-, p, hs, -⟩ | ⟨-, hreach⟩
      · exact .stands hs
      · exact hreach
  | @stuck _ e hk =>
    refine .inr ⟨⟨e, rfl⟩, ?_⟩
    rcases hmade hk with ⟨-, p, hs, -⟩ | ⟨-, hreach⟩
    · exact .stands hs
    · exact hreach

/-- A file that is written in a directory of a standing workspace. -/
theorem stands_of_written {d g k : Files} {root a : Path} {p q : Position} {name : Text}
    {content : Bytes} (hs : Stands d root p g) (hl : g.NoLinks p) (hd : g.DirectoryAt a q)
    (hpq : p <+: q) (hname : name ≠ Position.up)
    (h : g.written (a.child name) content = .ok k) :
    Stands d root p k ∧ k.NoLinks p ∧ k = g.put (q ++ [name]) (.file content) := by
  have hbelow : p <+: q ++ [name] := hpq.trans (List.prefix_append _ _)
  obtain ⟨hnd, rfl⟩ := put_of_written hs.after hd hname (fun t => hl _ t hbelow) h
  exact ⟨hs.put (.file h) hnd hbelow, hl.put (not_isGround_of_at? rfl hnd) (by simp), rfl⟩

/-- An attempt to fill a workspace whose place is free. -/
theorem filling_outcome {w : Workspace} (hroot : w.root = parent.child name) (ht : f.IsTree)
    (hfree : Free f parent w.root) (source template : Text) :
    Reaches f parent w.root (w.filling source template f).2 ∧
      ((w.filling source template f).1 = .ok () →
        ∃ manifest p k, Template.expand template w.crate = .ok manifest ∧
          Stands (f.withDirectories parent) w.root p k ∧
          Stands (f.withDirectories parent) w.root p (w.filling source template f).2 ∧
          (k = f.withDirectories parent ∨ k = (f.withDirectories parent).put p .directory) ∧
          (w.filling source template f).2 =
            filledAt k p (Text.encode manifest) (Text.encode source)) := by
  obtain ⟨root, crate⟩ := w
  obtain rfl : root = parent.child name := hroot
  unfold filling
  cases hm : (makeDirectories false (sourceDirectory ⟨parent.child name, crate⟩)).on f with
  | mk r g =>
    rcases sourceDirectory_outcome ht hfree hm with
      ⟨rfl, p, k, hs, hl, hnew, hvacant, rfl⟩ | ⟨⟨e, rfl⟩, hreach⟩
    -- from here on each step works below the workspace, so that it stands wherever they end
    · have hnone := (vacant_eq_ok_iff.1 hvacant).2
      have hgs := hs.put (.directory hvacant) (by rw [hnone]; simp) (List.prefix_append _ _)
      have hgl : (k.put (p ++ [sourceDirectoryName]) .directory).NoLinks p :=
        hl.put (not_isGround_of_at? hnone (by simp)) (by simp)
      have hgd := directoryAt_put hs.after hvacant
      simp only
      cases Template.expand template crate with
      | error e => exact ⟨.stands hgs, fun h => by cases h⟩
      | ok manifest =>
        simp only
        cases hw : Files.written _ (manifestPath ⟨parent.child name, crate⟩)
            (Text.encode manifest) with
        | error e => exact ⟨.stands hgs, fun h => by cases h⟩
        | ok l =>
          obtain ⟨hls, hll, rfl⟩ :=
            stands_of_written hgs hgl hgs.directoryAt List.prefix_rfl (by decide) hw
          have hld := hgd.keeps ((Edit.file hw).isTree_keeps hgs.after).2
          simp only
          cases hw' : Files.written _ (sourcePath ⟨parent.child name, crate⟩)
              (Text.encode source) with
          | error e => exact ⟨.stands hls, fun h => by cases h⟩
          | ok l' =>
            obtain ⟨hs', -, rfl⟩ :=
              stands_of_written hls hll hld (List.prefix_append _ _) (by decide) hw'
            exact ⟨.stands hs', fun _ => ⟨manifest, p, k, rfl, hs, hs', hnew, rfl⟩⟩
    · exact ⟨hreach, fun h => by cases h⟩

/-! ## The removal -/

/-- What is left once a workspace has been removed: the tree as it was, or with the directories
above the workspace, which are those that are new. -/
inductive Leaves (f : Files) (parent root : Path) : Files → Prop
  | before : Leaves f parent root f
  | parents :
      (∀ p, (f.withDirectories parent).locate false root = .ok p →
        (f.withDirectories parent).at? p = none) →
      Leaves f parent root (f.withDirectories parent)
  | removed {p : Position} {g : Files} :
      (f.withDirectories parent).locate false root = .ok p →
      (∀ q, ¬ p <+: q → g.at? q = (f.withDirectories parent).at? q) →
      (∀ q, p <+: q → g.at? q = none) → Leaves f parent root g

theorem leaves_of_stands (hfree : Free f parent root) {p : Position} {g : Files}
    (h : Stands (f.withDirectories parent) root p g) :
    Leaves f parent root (g.withoutTree root) := by
  have hp : p.isGround = false := not_isGround_of_at? (hfree p h.located) (by simp)
  rw [h.withoutTree]
  refine .removed h.located (fun q hq => ?_) fun q hq => g.at?_without_below hp hq
  rw [g.at?_without_outside hq, h.outside q hq]

theorem leaves_of_reaches (ht : f.IsTree) (hfree : Free f parent root) {g : Files}
    (h : Reaches f parent root g) : Leaves f parent root (g.withoutTree root) := by
  cases h with
  | before =>
    -- nothing is removed: what the path leads to would stand at the free place
    rw [withoutTree_eq_self]
    · exact .before
    · intro q hl hq
      have hkept := locate_keeps (ht.keeps_withDirectories parent) hl (by rw [hq]; simp)
      rw [hfree q hkept] at hq
      cases hq
  | parents =>
    -- the workspace itself can be one of the directories that were made above it
    by_cases hd : ∃ p, (f.withDirectories parent).locate false root = .ok p ∧
        (f.withDirectories parent).at? p = some .directory
    · obtain ⟨p, hl, hp⟩ := hd
      exact leaves_of_stands hfree (.of_located (ht.withDirectories parent) hl hp)
    · rw [withoutTree_eq_self fun q hl hq => hd ⟨q, hl, hq⟩]
      refine .parents fun p hl => ?_
      cases hat : (f.withDirectories parent).at? p with
      | none => rfl
      | some e =>
        have hnew := new_of_grows ht (f.grows_withDirectories parent) hat (hfree p hl)
        exact absurd ⟨p, hl, hnew.1 ▸ hat⟩ hd
  | stands hs => exact leaves_of_stands hfree hs

/-! ## Work in a workspace -/

/-- The workspace that is named on this host for a project. -/
def named (parent : Path) (project : Text) (h : Host) : Workspace :=
  let crate := CrateName.ofProject project
  ⟨parent.child (directoryName crate h.ticker.next.1 h.token), crate⟩

theorem named_of_continues {h h' : Host} (hc : h.Continues h') (parent : Path) (project : Text) :
    named parent project h' = named parent project h := by
  simp only [named, hc.ticker, hc.token]

/-- The host once a name was drawn, with these files. -/
def drawn (h : Host) (g : Files) : Host :=
  { h with
    files := g
    ticker := h.ticker.next.2 }

theorem on_name (parent : Path) (project : Text) (h : Host) :
    (Workspace.name parent project).on h = (.ok (named parent project h), drawn h h.files) := rfl

theorem drawn_follows (h : Host) (g : Files) : h.Follows (drawn h g) :=
  ⟨[], (List.append_nil _).symm, rfl⟩

theorem prepare_of_error {w : Workspace} {source template : Text} {h : Host} {g : Files}
    {e : Failure} (hf : w.filling source template h.files = (.error e, g)) :
    (w.prepare source template).on (drawn h h.files) = (.error (w.setupFailure e), drawn h g) := by
  have htry : (tryCatch (w.fill source template) fun e => throw (w.setupFailure e)).on
      (drawn h h.files) = (.error (w.setupFailure e), drawn h g) := by
    rw [Run.on_tryCatch, on_fill, drawn, hf]
    rfl
  rw [prepare, Run.on_bind_error htry]

theorem prepare_of_ok {w : Workspace} {source template : Text} {h : Host} {g : Files}
    (hf : w.filling source template h.files = (.ok (), g)) :
    ∃ h', (w.prepare source template).on (drawn h h.files) = (.ok (), h') ∧
      (drawn h g).Noted h' := by
  have htry : (tryCatch (w.fill source template) fun e => throw (w.setupFailure e)).on
      (drawn h h.files) = (.ok (), drawn h g) := by
    rw [Run.on_tryCatch, on_fill, drawn, hf]
    rfl
  obtain ⟨h', hlog, hn⟩ := Run.noted_log _ _ (drawn h g)
  exact ⟨h', by rw [prepare, Run.on_bind_ok htry, hlog], hn⟩

/-- After the removal of the directory only its outcome is noted. -/
theorem noted_release (w : Workspace) (h : Host) :
    Host.Noted { h with files := h.files.withoutTree w.root } (w.release.on h).2 := by
  obtain ⟨h₁, hnote, hn₁⟩ := Run.noted_note (e := .removed w.root) rfl
    { h with files := h.files.withoutTree w.root }
  rw [release, Run.on_bind_ok (Run.on_modify h _), Run.on_bind_ok hnote]
  have hask := Run.on_ask h₁ (·.isThere w.root)
  cases hr : h₁.files.isThere w.root with
  | error e =>
    rw [hr] at hask
    rw [Run.on_bind_error hask]
    exact hn₁
  | ok there =>
    rw [hr] at hask
    rw [Run.on_bind_ok hask]
    cases there with
    | true =>
      obtain ⟨h₂, hlog, hn₂⟩ := Run.noted_log _ _ h₁
      rw [if_pos rfl, hlog]
      exact hn₁.trans hn₂
    | false =>
      obtain ⟨h₂, hlog, hn₂⟩ := Run.noted_log _ _ h₁
      rw [if_neg (by simp), hlog]
      exact hn₁.trans hn₂

theorem at?_of_withoutTree {f : Files} {root : Path} {q : Position} {e : Entry}
    (h : (f.withoutTree root).at? q = some e) : f.at? q = some e := by
  unfold Files.withoutTree at h
  split at h
  · split at h
    · exact at?_of_without h
    · exact h
  · exact h

/-- The removal fails only if it cannot be checked. -/
theorem release_answer (w : Workspace) (h : Host) :
    (w.release.on h).1 = match (h.files.withoutTree w.root).isThere w.root with
      | .error e => .error (.file e)
      | .ok _ => .ok () := by
  obtain ⟨h₁, hnote, hn⟩ := Run.noted_note (e := .removed w.root) rfl
    { h with files := h.files.withoutTree w.root }
  have hask := Run.on_ask h₁ (·.isThere w.root)
  rw [hn.files] at hask
  rw [release, Run.on_bind_ok (Run.on_modify h _), Run.on_bind_ok hnote]
  cases hr : (h.files.withoutTree w.root).isThere w.root with
  | error e =>
    rw [hr] at hask
    rw [Run.on_bind_error hask]
  | ok there =>
    rw [hr] at hask
    rw [Run.on_bind_ok hask]
    cases there <;> rfl

/-- Where the directory of a workspace can be looked up, its removal ends without a failure. -/
theorem release_ok {w : Workspace} {h : Host} {p : Position} (hd : h.files.DirectoryAt w.root p) :
    (w.release.on h).1 = .ok () := by
  obtain ⟨there, hthere⟩ := isThere_of_fewer (fun _ _ => at?_of_withoutTree) hd.1
  rw [release_answer, hthere]

theorem follows_release (w : Workspace) (h : Host) : h.Follows (w.release.on h).2 := by
  have hsame : h.Follows { h with files := h.files.withoutTree w.root } :=
    ⟨[], (List.append_nil _).symm, rfl⟩
  exact hsame.trans (noted_release w h).follows

section Acquiring

variable {project source template : Text} {h : Host} {g : Files}

/-- A workspace that cannot be made is removed, and the failure is passed on unless the removal
fails itself. -/
theorem acquire_of_error {e : Failure}
    (hf : (named parent project h).filling source template h.files = (.error e, g)) :
    (acquire parent project source template).on h =
      (((named parent project h).release.on (drawn h g)).1 >>=
          fun _ => .error ((named parent project h).setupFailure e),
        ((named parent project h).release.on (drawn h g)).2) := by
  rw [acquire, Run.on_bind_ok (on_name parent project h),
    Run.on_bind_ok (Run.on_attempt_of (prepare_of_error hf))]
  cases hr : (named parent project h).release.on (drawn h g) with
  | mk r h' =>
    cases r with
    | ok => rw [Run.on_bind_ok hr]; rfl
    | error e' => rw [Run.on_bind_error hr]; rfl

/-- However its removal goes, a workspace that cannot be made leaves the files without it. -/
theorem acquire_fails {e : Failure}
    (hf : (named parent project h).filling source template h.files = (.error e, g)) :
    ∃ e' h', (acquire parent project source template).on h = (.error e', h') ∧
      h'.files = g.withoutTree (named parent project h).root := by
  have hfiles := files_release (named parent project h) (drawn h g)
  rw [acquire_of_error hf]
  cases hr : (named parent project h).release.on (drawn h g) with
  | mk r h' =>
    rw [hr] at hfiles
    cases r with
    | ok => exact ⟨_, h', rfl, hfiles⟩
    | error e' => exact ⟨e', h', rfl, hfiles⟩

theorem acquire_of_ok
    (hf : (named parent project h).filling source template h.files = (.ok (), g)) :
    ∃ h', (acquire parent project source template).on h = (.ok (named parent project h), h') ∧
      (drawn h g).Noted h' := by
  obtain ⟨h', hprepare, hn⟩ := prepare_of_ok hf
  refine ⟨h', ?_, hn⟩
  rw [acquire, Run.on_bind_ok (on_name parent project h),
    Run.on_bind_ok (Run.on_attempt_of hprepare)]
  rfl

variable {α : Type} (work : Workspace → Run α)

theorem within_of_error {e : Failure}
    (hf : (named parent project h).filling source template h.files = (.error e, g)) :
    (within parent project source template work).on h =
      (((named parent project h).release.on (drawn h g)).1 >>=
          fun _ => .error ((named parent project h).setupFailure e),
        ((named parent project h).release.on (drawn h g)).2) := by
  have hacquire := acquire_of_error hf
  cases hr : (named parent project h).release.on (drawn h g) with
  | mk r h' =>
    rw [hr] at hacquire
    cases r <;> exact Run.on_bind_error hacquire _

/-- Work in a workspace that can be made: the workspace is removed afterwards, and the result is
passed on unless the removal fails. -/
theorem within_of_ok
    (hf : (named parent project h).filling source template h.files = (.ok (), g)) :
    ∃ h₁, (drawn h g).Noted h₁ ∧
      (within parent project source template work).on h =
        (((named parent project h).release.on ((work (named parent project h)).on h₁).2).1 >>=
            fun _ => ((work (named parent project h)).on h₁).1,
          ((named parent project h).release.on ((work (named parent project h)).on h₁).2).2) := by
  obtain ⟨h₁, hacquire, hn⟩ := acquire_of_ok hf
  refine ⟨h₁, hn, ?_⟩
  rw [within, Run.on_bind_ok hacquire, Run.on_bind_ok (Run.on_attempt h₁ _)]
  cases hr : (named parent project h).release.on ((work (named parent project h)).on h₁).2 with
  | mk r h' =>
    cases r with
    | error e => rw [Run.on_bind_error hr]; rfl
    | ok =>
      rw [Run.on_bind_ok hr, Run.on_answer]
      cases ((work (named parent project h)).on h₁).1 <;> rfl

theorem follows_within (hwork : ∀ h₁ : Host, h₁.Follows ((work (named parent project h)).on h₁).2) :
    h.Follows ((within parent project source template work).on h).2 := by
  cases hf : (named parent project h).filling source template h.files with
  | mk r g =>
    cases r with
    | error e =>
      rw [within_of_error work hf]
      exact (drawn_follows h g).trans (follows_release _ _)
    | ok =>
      obtain ⟨h₁, hn, hwithin⟩ := within_of_ok work hf
      rw [hwithin]
      exact (((drawn_follows h g).trans hn.follows).trans (hwork h₁)).trans (follows_release _ _)

end Acquiring

end Workspace

end ContractBuild
