import ContractBuild.Proofs.Build.Workspace

/-!
# Directories that are there already

What making and removing a workspace does to the entries that stood before, whatever stands at the
place of its directory. A new name is drawn for every workspace, but nothing checks that it is free,
and the removal does not ask who has made the directory.

Main statement: `Workspace.fate_by_place`. Where nothing stood, or a file, every entry is as it was.
A directory that stood there is removed with everything below it, also if the workspace could not be
made because of it. Where a link stood nothing is removed, but the manifest may be written into a
file behind it.
-/

set_option autoImplicit false

namespace ContractBuild

open Files FileRun
open Relation (ReflTransGen)

/-! ## What is written when a workspace is filled -/

namespace Files

variable {f g : Files}

/-- A file is written at one place, and all else is as it was. -/
theorem at?_written {p : Path} {content : Bytes} (h : f.written p content = .ok g) (q : Position) :
    g.at? q = f.at? q ∨ (f.locate true p = .ok q ∧ g.at? q = some (.file content)) := by
  obtain ⟨r, hl, hr, rfl⟩ := written_eq_ok_iff.1 h
  rw [at?_put _ _ (not_isGround_of_at? rfl hr)]
  split
  · rename_i heq
    exact .inr ⟨heq ▸ hl, rfl⟩
  · exact .inl rfl

/-- Where a directory is made that must not exist, nothing stood before. -/
theorem vacant_of_made (ht : f.IsTree) {p : Path} {name : Text}
    (h : (makeDirectories false (p.child name)).on f = (.ok (), g)) :
    ∃ q, f.at? q = none ∧ g.DirectoryAt (p.child name) q := by
  have hmakes := makesChild ht h
  generalize hr : (Except.ok () : Except FileError Unit) = r at hmakes
  cases hmakes with
  | @put k q hk hq =>
    refine ⟨q, ?_, directoryAt_put (isTree_of_on ht hk) hq⟩
    cases hat : f.at? q with
    | none => rfl
    | some e =>
      have hgrows := grows_makeDirectories true p f
      rw [hk] at hgrows
      have hnone := (vacant_eq_ok_iff.1 hq).2
      rw [at?_of_grows hgrows hat] at hnone
      cases hnone
  | settled _ _ => cases hr
  | stuck _ => cases hr

end Files

namespace Workspace

/-- The tree `g` is what filling the workspace leaves of the tree `f`, however far it comes. -/
inductive Filled (w : Workspace) (source template : Text) (f : Files) : Files → Prop
  | made {r : Except FileError Unit} {g : Files} :
      (makeDirectories false w.sourceDirectory).on f = (r, g) → Filled w source template f g
  | manifest {k g : Files} {manifest : Text} :
      (makeDirectories false w.sourceDirectory).on f = (.ok (), k) →
      Template.expand template w.crate = .ok manifest →
      k.written w.manifestPath (Text.encode manifest) = .ok g → Filled w source template f g
  | source {k l g : Files} {manifest : Text} :
      (makeDirectories false w.sourceDirectory).on f = (.ok (), k) →
      Template.expand template w.crate = .ok manifest →
      k.written w.manifestPath (Text.encode manifest) = .ok l →
      l.written w.sourcePath (Text.encode source) = .ok g → Filled w source template f g

theorem filled_filling (w : Workspace) (source template : Text) (f : Files) :
    Filled w source template f (w.filling source template f).2 := by
  unfold filling
  split
  · rename_i hmade
    exact .made hmade
  · rename_i hmade
    split
    · exact .made hmade
    · rename_i hexpand
      split
      · exact .made hmade
      · rename_i hmanifest
        split
        · exact .manifest hmade hexpand hmanifest
        · rename_i hsource
          exact .source hmade hexpand hmanifest hsource

/-- The path of the manifest leads to a file of the tree `f`, and in the tree `g` the manifest is
written into it. -/
structure HoldsManifest (w : Workspace) (template : Text) (f g : Files) (q : Position) :
    Prop where
  located : g.locate true w.manifestPath = .ok q
  before : ∃ content, f.at? q = some (.file content)
  after : ∃ manifest, Template.expand template w.crate = .ok manifest ∧
    g.at? q = some (.file (Text.encode manifest))

namespace Filled

variable {w : Workspace} {source template : Text} {f g : Files} {q : Position} {e : Entry}

theorem edits (h : Filled w source template f g) : ReflTransGen Edit f g := by
  have hmade : ∀ {r k}, (makeDirectories false w.sourceDirectory).on f = (r, k) →
      ReflTransGen Edit f k := by
    intro r k hk
    have hedits := does_edit_makeDirectories false w.sourceDirectory f
    rwa [hk] at hedits
  cases h with
  | made hk => exact hmade hk
  | manifest hk _ hm => exact (hmade hk).tail (.file hm)
  | source hk _ hm hs => exact ((hmade hk).tail (.file hm)).tail (.file hs)

/-- The directories that are made change no entry. -/
theorem at?_of_made {r : Except FileError Unit} {k : Files}
    (h : (makeDirectories false w.sourceDirectory).on f = (r, k)) (hq : f.at? q = some e) :
    k.at? q = some e := by
  have hgrows := grows_makeDirectories false w.sourceDirectory f
  rw [h] at hgrows
  exact at?_of_grows hgrows hq

/-- No link is made. -/
theorem link (ht : f.IsTree) (h : Filled w source template f g) {target : Text}
    (hq : g.at? q = some (.link target)) : f.at? q = some (.link target) := by
  have hmade : ∀ {r k}, (makeDirectories false w.sourceDirectory).on f = (r, k) →
      k.at? q = some (.link target) → f.at? q = some (.link target) := by
    intro r k hk hat
    have hgrows := grows_makeDirectories false w.sourceDirectory f
    rw [hk] at hgrows
    cases hf : f.at? q with
    | none => cases (new_of_grows ht hgrows hat hf).1
    | some e => rw [← at?_of_grows hgrows hf, hat]
  have hwritten : ∀ {k l : Files} {p content}, k.written p content = .ok l →
      l.at? q = some (.link target) → k.at? q = some (.link target) := by
    intro k l p content hl hat
    rcases at?_written hl q with hsame | ⟨-, hfile⟩
    · rwa [← hsame]
    · rw [hfile] at hat
      cases hat
  cases h with
  | made hk => exact hmade hk hq
  | manifest hk _ hm => exact hmade hk (hwritten hm hq)
  | source hk _ hm hs => exact hmade hk (hwritten hm (hwritten hs hq))

/-- The manifest is written into an entry that was there before, or leaves it as it is. -/
theorem at?_of_manifest {k g : Files} {manifest : Text} (ht : f.IsTree)
    (hk : (makeDirectories false w.sourceDirectory).on f = (.ok (), k))
    (hexpand : Template.expand template w.crate = .ok manifest)
    (hm : k.written w.manifestPath (Text.encode manifest) = .ok g) (hq : f.at? q = some e) :
    g.at? q = some e ∨ HoldsManifest w template f g q := by
  have hkq := at?_of_made hk hq
  rcases at?_written hm q with hsame | ⟨hl, hfile⟩
  · exact .inl (hsame.trans hkq)
  · have hkt := isTree_of_on ht hk
    have hkeeps := ((Edit.file hm).isTree_keeps hkt).2
    obtain ⟨r, hr, hnd, -⟩ := written_eq_ok_iff.1 hm
    obtain rfl := locate_unique hl hr
    -- a directory is not written into, and a link at the end of a path is followed
    rcases (at?_of_written hkt hl hnd).1 with hnone | ⟨content, hcontent⟩
    · rw [hkq] at hnone
      cases hnone
    · rw [hkq] at hcontent
      exact .inr ⟨locate_keeps hkeeps hl (by rw [hkq]; simp), ⟨content, hq.trans hcontent⟩,
        manifest, hexpand, hfile⟩

/-- The source is written where nothing stood before. -/
theorem at?_of_source {k l : Files} {content : Bytes} (ht : f.IsTree)
    (hk : (makeDirectories false w.sourceDirectory).on f = (.ok (), k))
    (hedits : ReflTransGen Edit k l) (hlinks : ∀ q t, l.at? q = some (.link t) →
      f.at? q = some (.link t))
    (hs : l.written w.sourcePath content = .ok g) (hq : f.at? q = some e) :
    g.at? q = l.at? q := by
  rcases at?_written hs q with hsame | ⟨hl, -⟩
  · exact hsame
  obtain ⟨r, hnone, hd⟩ := vacant_of_made ht hk
  obtain ⟨hlt, hkeeps⟩ := isTree_keeps_of_edits (isTree_of_on ht hk) hedits
  have hbelow : f.at? (r ++ [sourceName]) = none :=
    ht.at?_eq_none_below hnone (List.prefix_append _ _)
  have hplace : q = r ++ [sourceName] := by
    refine eq_of_locate_child hlt (hd.keeps hkeeps) hl (by decide) fun t hlink => ?_
    rw [hlinks _ _ hlink] at hbelow
    cases hbelow
  rw [hplace, hbelow] at hq
  cases hq

/-- An entry that was there before is as it was, or the manifest is written into it. -/
theorem at?_of (ht : f.IsTree) (h : Filled w source template f g) (hq : f.at? q = some e) :
    g.at? q = some e ∨ HoldsManifest w template f g q := by
  cases h with
  | made hk => exact .inl (at?_of_made hk hq)
  | manifest hk hexpand hm => exact at?_of_manifest ht hk hexpand hm hq
  | @source k l _ _ hk hexpand hm hs =>
    have hfilled : Filled w source template f l := .manifest hk hexpand hm
    have hlinks : ∀ q t, l.at? q = some (.link t) → f.at? q = some (.link t) :=
      fun q t => hfilled.link ht
    have hsame := at?_of_source ht hk (.single (.file hm)) hlinks hs hq
    rcases at?_of_manifest ht hk hexpand hm hq with hold | ⟨hl, hbefore, manifest, he, hafter⟩
    · exact .inl (hsame.trans hold)
    · have hlt := (isTree_keeps_of_edits ht hfilled.edits).1
      have hkeeps := ((Edit.file hs).isTree_keeps hlt).2
      exact .inr ⟨locate_keeps hkeeps hl (by rw [hafter]; simp), hbefore, manifest, he,
        hsame.trans hafter⟩

/-- A manifest is written into an entry only if a directory or a link stood at the place of the
workspace. -/
theorem stood_of_holdsManifest (ht : f.IsTree) (h : Filled w source template f g)
    (hm : HoldsManifest w template f g q) :
    ∃ p, g.locate false w.root = .ok p ∧
      (f.at? p = some .directory ∨ ∃ t, f.at? p = some (.link t)) := by
  obtain ⟨hgt, hkeeps⟩ := isTree_keeps_of_edits ht h.edits
  obtain ⟨r, n, hd, hlast⟩ := locate_child hgt hm.located
  obtain ⟨p, hl, hp⟩ := hd.locate_false
  refine ⟨p, hl, ?_⟩
  -- the place is the directory itself, unless a link stands there
  have hdirectory : (∀ t, g.at? p ≠ some (.link t)) → p = r := by
    intro hnot
    obtain ⟨hfits, hleads⟩ := locate_eq_ok_iff.1 hl
    exact locate_unique (locate_eq_ok_iff.2 ⟨hfits, hleads.followed hnot⟩) hd.1
  cases hat : f.at? p with
  | some e =>
    cases e with
    | directory => exact .inl rfl
    | link t => exact .inr ⟨t, rfl⟩
    | file content =>
      obtain ⟨content', hfile⟩ := hkeeps.file hat
      obtain rfl := hdirectory (by rw [hfile]; simp)
      rw [hd.2] at hfile
      cases hfile
  | none =>
    obtain rfl := hdirectory fun t hlink => by rw [h.link ht hlink] at hat; cases hat
    -- below a place where nothing stood there is neither a link nor the file
    have hbelow : f.at? (p ++ [manifestName]) = none :=
      ht.at?_eq_none_below hat (List.prefix_append _ _)
    obtain ⟨content, hbefore⟩ := hm.before
    have hplace := (hlast.single (by decide) fun t hlink => by
      rw [h.link ht hlink] at hbelow
      cases hbelow).2
    rw [hplace, hbelow] at hbefore
    cases hbefore

end Filled

/-! ## What is removed -/

/-- What stood in the tree `f` at the place where a path leads in the tree `g`. -/
def stood (f g : Files) (root : Path) : Option Entry :=
  match g.locate false root with
  | .ok p => f.at? p
  | .error _ => none

/-- From the tree `g` to the tree `k` nothing happens to the entries that are in `f`, and the path
leads to the place where it led. -/
structure Spares (f : Files) (root : Path) (g k : Files) : Prop where
  entries : ∀ q e, f.at? q = some e → k.at? q = g.at? q
  place : k.locate false root = g.locate false root

theorem Spares.refl (f : Files) (root : Path) (g : Files) : Spares f root g g :=
  ⟨fun _ _ _ => rfl, rfl⟩

/-- The entry is in the tree `k` as it was, or it is the file that the manifest was written into. -/
def IsKept (w : Workspace) (template : Text) (f g k : Files) (q : Position) (e : Entry) : Prop :=
  k.at? q = some e ∨ HoldsManifest w template f g q ∧ k.at? q = g.at? q

/-- What becomes of the entries of the tree `f` when a workspace is made, which leaves the tree `g`,
and removed, which leaves the tree `k`. It depends on what stood at the place of the directory. -/
def Fate (w : Workspace) (template : Text) (f g k : Files) : Prop :=
  match stood f g w.root with
  | some .directory => ∃ p, g.locate false w.root = .ok p ∧ f.at? p = some .directory ∧
      (∀ q, p <+: q → k.at? q = none) ∧
      ∀ q e, ¬ p <+: q → f.at? q = some e → IsKept w template f g k q e
  | some (.link _) => ∀ q e, f.at? q = some e → IsKept w template f g k q e
  | _ => ∀ q e, f.at? q = some e → k.at? q = some e

/-- The place of a directory whose name has a hyphen is no ground position. -/
theorem not_isGround_of_locate {g : Files} (ht : g.IsTree) {parent : Path} {name : Text}
    (hname : '-' ∈ name) {p : Position} (h : g.locate false (parent.child name) = .ok p) :
    p.isGround = false := by
  have hup : name ≠ Position.up := by
    rintro rfl
    revert hname
    decide
  have hslash : name ≠ ['/'] := by
    rintro rfl
    revert hname
    decide
  obtain ⟨q, n, -, hlast⟩ := locate_child ht h
  obtain ⟨-, rfl⟩ := hlast.single hup fun _ _ => rfl
  rw [Position.isGround, Bool.or_eq_false_iff]
  refine ⟨?_, decide_eq_false fun hroot => ?_⟩
  · rw [List.all_append, Bool.and_eq_false_iff]
    exact .inr (by simpa using hup)
  · have hlast := congrArg List.getLast? hroot
    rw [List.getLast?_concat] at hlast
    exact hslash (Option.some.inj hlast)

/-! ## The fate of what stood before -/

section Removal

variable {w : Workspace} {source template : Text} {f g k : Files} {p : Position}

theorem stood_of_locate (hl : g.locate false w.root = .ok p) : stood f g w.root = f.at? p := by
  rw [stood, hl]

/-- Where the entry is spared and not removed, it is kept. -/
theorem isKept (ht : f.IsTree) (hfilled : Filled w source template f g)
    (hspares : Spares f w.root g k) {q : Position} {e : Entry} (hq : f.at? q = some e)
    {l : Files} (hl : l.at? q = k.at? q) : IsKept w template f g l q e := by
  have hsame := hl.trans (hspares.entries q e hq)
  rcases hfilled.at?_of ht hq with hold | hm
  · exact .inl (hsame.trans hold)
  · exact .inr ⟨hm, hsame⟩

/-- The entries are kept as they are if neither a directory nor a link stood at the place. -/
theorem at?_of_isKept (ht : f.IsTree) (hfilled : Filled w source template f g)
    (hnot : ∀ e, stood f g w.root = some e → ∃ content, e = .file content)
    {q : Position} {e : Entry} (h : IsKept w template f g k q e) : k.at? q = some e := by
  rcases h with hold | ⟨hm, -⟩
  · exact hold
  · obtain ⟨p, hl, hstood⟩ := hfilled.stood_of_holdsManifest ht hm
    rw [stood_of_locate hl] at hnot
    rcases hstood with hp | ⟨t, hp⟩
    · obtain ⟨content, hfile⟩ := hnot _ hp
      cases hfile
    · obtain ⟨content, hfile⟩ := hnot _ hp
      cases hfile

/-- The fate of the entries, whatever happens in the workspace as long as they are spared. -/
theorem fate_of_filled (ht : f.IsTree) {parent : Path} {name : Text} (hname : '-' ∈ name)
    (hroot : w.root = parent.child name) (hfilled : Filled w source template f g)
    (hspares : Spares f w.root g k) : Fate w template f g (k.withoutTree w.root) := by
  obtain ⟨hgt, hkeeps⟩ := isTree_keeps_of_edits ht hfilled.edits
  -- where the place holds no directory, nothing is removed
  have hkept : (∀ p, g.locate false w.root = .ok p → k.at? p ≠ some .directory) →
      ∀ q e, f.at? q = some e → IsKept w template f g (k.withoutTree w.root) q e := by
    intro hnot q e hq
    refine isKept ht hfilled hspares hq ?_
    rw [withoutTree_eq_self fun p hp => hnot p (hspares.place ▸ hp)]
  unfold Fate
  cases hl : g.locate false w.root with
  | error e =>
    have hstood : stood f g w.root = none := by rw [stood, hl]
    rw [hstood]
    intro q e' hq
    refine at?_of_isKept ht hfilled (fun e'' he => ?_) (hkept (fun p hp => ?_) q e' hq)
    · rw [hstood] at he
      cases he
    · rw [hl] at hp
      cases hp
  | ok p =>
    have hplace := stood_of_locate (f := f) hl
    have hkl : k.locate false w.root = .ok p := hspares.place.trans hl
    have hground : p.isGround = false :=
      not_isGround_of_locate hgt hname (hroot ▸ hl)
    have hnot : k.at? p ≠ some .directory →
        ∀ q e, f.at? q = some e → IsKept w template f g (k.withoutTree w.root) q e := by
      intro hd
      refine hkept fun p' hp' => ?_
      obtain rfl := locate_unique hl hp'
      exact hd
    rw [hplace]
    cases hat : f.at? p with
    | none =>
      have hfile : ∀ e, stood f g w.root = some e → ∃ content, e = .file content := by
        intro e he
        rw [hplace, hat] at he
        cases he
      intro q e hq
      refine at?_of_isKept ht hfilled hfile (isKept ht hfilled hspares hq ?_)
      -- nothing stood below the place, so what is removed there is new
      by_cases hd : k.at? p = some .directory
      · rw [withoutTree_of_locate hkl hd, at?_without_outside]
        intro hpq
        rw [ht.at?_eq_none_below hat hpq] at hq
        cases hq
      · rw [withoutTree_eq_self fun p' hp' => locate_unique hkl hp' ▸ hd]
    | some entry =>
      cases entry with
      | directory =>
        have hd : k.at? p = some .directory :=
          (hspares.entries p _ hat).trans (hkeeps.directory hat)
        rw [withoutTree_of_locate hkl hd]
        refine ⟨p, rfl, hat, fun q hq => k.at?_without_below hground hq, fun q e hq hold => ?_⟩
        exact isKept ht hfilled hspares hold (k.at?_without_outside hq)
      | link t =>
        refine hnot ?_
        rw [hspares.entries p _ hat, hkeeps.link hat]
        simp
      | file content =>
        have hfile : ∀ e, stood f g w.root = some e → ∃ content, e = .file content := by
          intro e he
          rw [hplace, hat] at he
          exact ⟨content, (Option.some.inj he).symm⟩
        obtain ⟨content', hfile'⟩ := hkeeps.file hat
        intro q e hq
        refine at?_of_isKept ht hfilled hfile (hnot ?_ q e hq)
        rw [hspares.entries p _ hat, hfile']
        simp

end Removal

/-- However work in a workspace ends, and also if the workspace cannot be made, what stood at the
place of its directory decides what becomes of the entries from before: they are as they were where
nothing stood or a file, those at or below a directory that stood there are gone, and behind a link
the manifest is written. The work itself has to spare them. -/
theorem fate_by_place {α : Type} (parent : Path) (project source template : Text)
    (work : Workspace → Run α) (h : Host) (ht : h.files.IsTree)
    (hwork : ∀ h₁, (drawn h ((named parent project h).filling source template h.files).2).Noted h₁ →
      Spares h.files (named parent project h).root
        ((named parent project h).filling source template h.files).2
        ((work (named parent project h)).on h₁).2.files) :
    Fate (named parent project h) template h.files
      ((named parent project h).filling source template h.files).2
      ((within parent project source template work).on h).2.files := by
  have hfilled := filled_filling (named parent project h) source template h.files
  have hname : '-' ∈ directoryName (CrateName.ofProject project) h.ticker.next.1 h.token :=
    List.mem_append_left _ (List.mem_append_right _ List.mem_cons_self)
  cases hf : (named parent project h).filling source template h.files with
  | mk r g =>
    rw [hf] at hwork hfilled
    cases r with
    | error e =>
      rw [within_of_error work hf]
      show Fate _ _ _ _ (Host.files (Prod.snd _))
      rw [files_release]
      exact fate_of_filled ht hname rfl hfilled (.refl _ _ g)
    | ok =>
      obtain ⟨h₁, hn, hwithin⟩ := within_of_ok work hf
      rw [hwithin]
      show Fate _ _ _ _ (Host.files (Prod.snd _))
      rw [files_release]
      exact fate_of_filled ht hname rfl hfilled (hwork h₁ hn)

/-- A host on which the directory of the next workspace is there already, with a file in it and with
a directory for a source. -/
def takenHost : Host :=
  { files := ⟨[(["builds"], .directory),
      (["builds", "demo-1700000000000000000-01234567"], .directory),
      (["builds", "demo-1700000000000000000-01234567", "keep"], .file [1]),
      (["builds", "demo-1700000000000000000-01234567", "src"], .directory)]⟩ }

/-- The workspace cannot be made there, and the file is lost. -/
theorem fate_by_place_takenName :
    let w := named (Path.ofText "builds") "demo" takenHost
    (w.filling "x" "[package]" takenHost.files).1.toOption = none ∧
      takenHost.files.at? ["builds", "demo-1700000000000000000-01234567", "keep"] =
        some (.file [1]) ∧
      ((within (Path.ofText "builds") "demo" "x" "[package]" (fun _ => pure ())).on
        takenHost).2.files.at? ["builds", "demo-1700000000000000000-01234567", "keep"] = none := by
  have hplace : ((named (Path.ofText "builds") "demo" takenHost).filling "x" "[package]"
      takenHost.files).2.locate false (named (Path.ofText "builds") "demo" takenHost).root =
        .ok ["builds", "demo-1700000000000000000-01234567"] := by
    decide +kernel
  have hfate := fate_by_place (Path.ofText "builds") "demo" "x" "[package]"
    (fun _ => pure ()) takenHost (isTree_of_entries (by decide)) fun h₁ hn => by
      rw [Run.on_pure, hn.files]
      exact .refl _ _ _
  rw [Fate, stood_of_locate hplace] at hfate
  obtain ⟨p, hl, -, hgone, -⟩ := hfate
  obtain rfl := locate_unique hplace hl
  exact ⟨by decide +kernel, by decide, hgone _ ⟨["keep"], rfl⟩⟩

end Workspace

end ContractBuild
