import ContractBuild.Proofs.Files.Resolution
import Mathlib.Logic.Relation

/-!
# Operations on a tree

What each operation of `FileRun` answers and which tree it leaves. Nothing that an operation does
removes an entry (`FileRun.edits_plantAll`, `Files.isTree_keeps_of_edits`), and an operation that
makes a directory adds nothing but directories on the way to it (`Files.new_of_grows`).

Main statements: making a directory with those above it ends without an error exactly if the
directory is there afterwards (`Files.directoryAt_of_ok`, `Files.not_directoryAt_of_error`), changes
nothing where it exists (`Files.on_makeDirectories_of_directoryAt`), and nothing when it is repeated
(`Files.withDirectories_idem`).
-/

set_option autoImplicit false

namespace ContractBuild

/-! ## Equations of the operations -/

namespace FileRun

variable {α β : Type}

/-- The answer of an operation, and the tree after it. -/
def on (work : FileRun α) (f : Files) : Except FileError α × Files :=
  (ExceptT.run work).run f

theorem on_pure (a : α) (f : Files) : (pure a : FileRun α).on f = (.ok a, f) := rfl

theorem on_throw (e : FileError) (f : Files) : (throw e : FileRun α).on f = (.error e, f) := rfl

theorem on_bind (work : FileRun α) (next : α → FileRun β) (f : Files) :
    (work >>= next).on f = match work.on f with
      | (.ok a, g) => (next a).on g
      | (.error e, g) => (.error e, g) := by
  show StateT.run _ _ = _
  simp only [on, bind, ExceptT.bind, ExceptT.run, ExceptT.mk, StateT.bind, StateT.run]
  split
  rename_i r g hr
  cases r with
  | ok a => simp only [ExceptT.bindCont, hr]
  | error e => simp only [hr]; rfl

theorem on_tryCatch (work : FileRun α) (handler : FileError → FileRun α) (f : Files) :
    (tryCatch work handler).on f = match work.on f with
      | (.ok a, g) => (.ok a, g)
      | (.error e, g) => (handler e).on g := by
  show StateT.run _ _ = _
  simp only [on, tryCatch, tryCatchThe, MonadExceptOf.tryCatch, ExceptT.tryCatch, ExceptT.run,
    ExceptT.mk, bind, StateT.bind, StateT.run]
  split
  rename_i r g hr
  cases r with
  | ok a => simp only [hr]; rfl
  | error e => simp only [hr]

theorem on_ask (question : Files → Except FileError α) (f : Files) :
    (ask question).on f = (question f, f) := by
  rw [ask, on_bind]
  show (ask.liftExcept (question f)).on f = _
  cases question f <;> rfl

theorem on_modify (change : Files → Files) (f : Files) :
    (modify change : FileRun Unit).on f = (.ok (), change f) := rfl

theorem on_makeDirectory (p : Path) (f : Files) :
    (makeDirectory p).on f = match f.vacant p with
      | .ok q => (.ok (), f.put q .directory)
      | .error e => (.error e, f) := by
  rw [makeDirectory, on_bind, on_ask]
  cases f.vacant p <;> rfl

theorem on_makeLink (p : Path) (target : Text) (f : Files) :
    (makeLink p target).on f = match f.vacant p with
      | .ok q => (.ok (), f.put q (.link target))
      | .error e => (.error e, f) := by
  rw [makeLink, on_bind, on_ask]
  cases f.vacant p <;> rfl

theorem on_writeFile (p : Path) (content : Bytes) (f : Files) :
    (writeFile p content).on f = match f.written p content with
      | .ok g => (.ok (), g)
      | .error e => (.error e, f) := by
  rw [writeFile, on_bind, on_ask]
  cases f.written p content <;> rfl

/-- An existing directory is accepted on request; nothing is changed in any case. -/
theorem on_ensureDirectory (mayExist : Bool) (p : Path) (e : FileError) (f : Files) :
    (ensureDirectory mayExist p e).on f =
      (if mayExist then match f.isDirectory p with
        | .ok true => .ok ()
        | .ok false => .error e
        | .error e' => .error e'
       else .error e, f) := by
  cases mayExist with
  | false => rfl
  | true =>
    simp only [ensureDirectory, if_true, on_bind, on_ask]
    cases f.isDirectory p with
    | error e' => rfl
    | ok there => cases there <;> rfl

end FileRun

namespace Files

open Relation (ReflTransGen)

/-! ## Single changes -/

theorem vacant_eq_ok_iff {f : Files} {p : Path} {q : Position} :
    f.vacant p = .ok q ↔ f.locate false p = .ok q ∧ f.at? q = none := by
  unfold vacant
  cases h : f.locate false p with
  | error e => simp [bind, Except.bind]
  | ok r =>
    simp only [bind, Except.bind]
    cases hr : f.at? r with
    | none =>
      constructor
      · rintro ⟨⟩
        exact ⟨rfl, hr⟩
      · rintro ⟨⟨⟩, _⟩
        rfl
    | some e =>
      refine ⟨fun h => (by cases h), ?_⟩
      rintro ⟨⟨⟩, hq⟩
      rw [hr] at hq
      cases hq

theorem written_eq_ok_iff {f g : Files} {p : Path} {content : Bytes} :
    f.written p content = .ok g ↔
      ∃ q, f.locate true p = .ok q ∧ f.at? q ≠ some .directory ∧
        g = f.put q (.file content) := by
  unfold written
  cases h : f.locate true p with
  | error e => simp [bind, Except.bind]
  | ok r =>
    simp only [bind, Except.bind]
    split
    · rename_i hr
      refine ⟨fun h => (by cases h), ?_⟩
      rintro ⟨q, ⟨⟩, hq, -⟩
      exact absurd hr hq
    · rename_i hr
      constructor
      · rintro ⟨⟩
        exact ⟨r, rfl, fun h => hr h, rfl⟩
      · rintro ⟨q, ⟨⟩, -, rfl⟩
        rfl

/-- A tree stays one if an entry is put into a directory, in place of nothing or of an entry that
is no directory. -/
theorem IsTree.put {f : Files} (ht : f.IsTree) {p : Position} (hp : f.at? p ≠ some .directory)
    (hd : f.at? p.dropLast = some .directory) (e : Entry) : (f.put p e).IsTree := by
  have hg : p.isGround = false := not_isGround_of_at? rfl hp
  intro q e' hq
  have hne : p.dropLast ≠ p := fun h => hp (h ▸ hd)
  have hstays : ∀ {r}, f.at? r = some .directory → (f.put p e).at? r = some .directory := by
    intro r hr
    rw [at?_put _ _ hg, if_neg (by rintro rfl; exact hp hr)]
    exact hr
  rw [at?_put _ _ hg] at hq
  split at hq
  · rename_i heq
    subst heq
    exact hstays hd
  · exact hstays (ht q e' hq)

theorem Keeps.put {f : Files} {p : Position} {e : Entry}
    (hp : f.at? p = none ∨ ∃ c c', f.at? p = some (.file c) ∧ e = .file c') :
    f.Keeps (f.put p e) := by
  have hg : p.isGround = false := by
    rcases hp with h | ⟨c, -, h, -⟩ <;> exact not_isGround_of_at? h (by simp)
  -- an entry that is no file stands elsewhere than at `p`
  have hold : ∀ q e', (∀ c, e' ≠ .file c) → f.at? q = some e' → (f.put p e).at? q = some e' := by
    intro q e' he' hq
    rw [at?_put _ _ hg, if_neg ?_, hq]
    rintro rfl
    rcases hp with h | ⟨c, -, h, -⟩ <;> rw [hq] at h <;> cases h
    exact he' c rfl
  refine ⟨hold _ _ (by simp), hold _ _ (by simp), @fun q c h => ?_⟩
  rw [at?_put _ _ hg]
  split
  · rename_i heq
    subst heq
    rcases hp with h' | ⟨_, c', -, rfl⟩
    · rw [h] at h'; cases h'
    · exact ⟨c', rfl⟩
  · exact ⟨c, h⟩

/-- One change of a tree that removes nothing. -/
inductive Edit (f : Files) : Files → Prop
  | directory {p : Path} {q : Position} : f.vacant p = .ok q → Edit f (f.put q .directory)
  | link {p : Path} {q : Position} {target : Text} :
      f.vacant p = .ok q → Edit f (f.put q (.link target))
  | file {p : Path} {content : Bytes} {g : Files} : f.written p content = .ok g → Edit f g

theorem at?_dropLast_of_vacant {f : Files} (ht : f.IsTree) {p : Path} {q : Position}
    (h : f.vacant p = .ok q) : f.at? q.dropLast = some .directory := by
  obtain ⟨hl, hq⟩ := vacant_eq_ok_iff.1 h
  obtain ⟨r, name, rfl, -, hr⟩ :=
    (locate_eq_ok_iff.1 hl).2.above_vacant ht (f.at?_ofAnchor _) hq
  rwa [List.dropLast_concat]

/-- A file is written where nothing stands or a file does, in a directory. -/
theorem at?_of_written {f : Files} (ht : f.IsTree) {p : Path} {q : Position}
    (hl : f.locate true p = .ok q) (hq : f.at? q ≠ some .directory) :
    (f.at? q = none ∨ ∃ c, f.at? q = some (.file c)) ∧ f.at? q.dropLast = some .directory := by
  have hleads := (locate_eq_ok_iff.1 hl).2
  cases h : f.at? q with
  | none =>
    obtain ⟨r, name, rfl, -, hr⟩ := hleads.above_vacant ht (f.at?_ofAnchor _) h
    exact ⟨.inl rfl, by rwa [List.dropLast_concat]⟩
  | some e =>
    cases e with
    | directory => exact absurd h hq
    | file c => exact ⟨.inr ⟨c, rfl⟩, ht _ _ h⟩
    | link t => exact absurd h (hleads.not_link ht (f.at?_ofAnchor _) t)

theorem Edit.isTree_keeps {f g : Files} (ht : f.IsTree) (h : f.Edit g) : g.IsTree ∧ f.Keeps g := by
  cases h with
  | directory h =>
    have hq := (vacant_eq_ok_iff.1 h).2
    exact ⟨ht.put (by rw [hq]; simp) (at?_dropLast_of_vacant ht h) _, .put (.inl hq)⟩
  | link h =>
    have hq := (vacant_eq_ok_iff.1 h).2
    exact ⟨ht.put (by rw [hq]; simp) (at?_dropLast_of_vacant ht h) _, .put (.inl hq)⟩
  | file h =>
    obtain ⟨q, hl, hq, rfl⟩ := written_eq_ok_iff.1 h
    obtain ⟨hat, hd⟩ := at?_of_written ht hl hq
    refine ⟨ht.put hq hd _, .put ?_⟩
    rcases hat with h | ⟨c, h⟩
    · exact .inl h
    · exact .inr ⟨c, _, h, rfl⟩

/-- Changes that remove nothing leave a tree with all its entries. -/
theorem isTree_keeps_of_edits {f g : Files} (ht : f.IsTree) (h : ReflTransGen Edit f g) :
    g.IsTree ∧ f.Keeps g := by
  induction h with
  | refl => exact ⟨ht, .refl f⟩
  | tail _ hstep ih =>
    obtain ⟨htree, hkeeps⟩ := hstep.isTree_keeps ih.1
    exact ⟨htree, ih.2.trans hkeeps⟩

end Files

/-! ## What operations leave -/

/-- The path `a` leads to a directory on the way that `p` names. -/
def Path.IsAbove (a p : Path) : Prop :=
  a.anchor = p.anchor ∧ a.names <+: p.names

theorem Path.isAbove_refl (p : Path) : p.IsAbove p :=
  ⟨rfl, List.prefix_rfl⟩

theorem Path.IsAbove.child {a p : Path} (h : a.IsAbove p) (name : Text) :
    a.IsAbove (p.child name) :=
  ⟨h.1, h.2.trans (List.prefix_append _ _)⟩

theorem Path.eq_of_isAbove_top {a : Path} {anchor : Anchor} (h : a.IsAbove ⟨anchor, []⟩) :
    a = ⟨anchor, []⟩ := by
  obtain ⟨b, names⟩ := a
  obtain ⟨rfl, hnames⟩ := h
  exact congrArg (Path.mk b) (List.prefix_nil.1 hnames)

/-- On the way to a child there is the child, and what is on the way to its parent. -/
theorem Path.isAbove_child {a p : Path} {name : Text} (h : a.IsAbove (p.child name)) :
    a = p.child name ∨ a.IsAbove p := by
  obtain ⟨hanchor, hnames⟩ := h
  rcases List.prefix_concat_iff.1 hnames with hsame | habove
  · obtain ⟨b, names⟩ := a
    obtain rfl : b = p.anchor := hanchor
    exact .inl (congrArg (Path.mk p.anchor) hsame)
  · exact .inr ⟨hanchor, habove⟩

/-- Every path is an anchor or a child, so a law of paths can be shown child by child. -/
theorem Path.childInduction {motive : Path → Prop} (top : ∀ anchor, motive ⟨anchor, []⟩)
    (child : ∀ p name, motive p → motive (p.child name)) (p : Path) : motive p := by
  obtain ⟨anchor, names⟩ := p
  induction names using List.reverseRecOn with
  | nil => exact top anchor
  | append_singleton names name ih => exact child ⟨anchor, names⟩ name ih

namespace FileRun

open Files
open Relation (ReflTransGen)

variable {α β : Type} {R : Files → Files → Prop}

/-- An operation changes the tree by changes of the kind `R` only. -/
def Does (R : Files → Files → Prop) (work : FileRun α) : Prop :=
  ∀ f, ReflTransGen R f (work.on f).2

theorem Does.bind {work : FileRun α} {next : α → FileRun β} (h : Does R work)
    (hnext : ∀ a, Does R (next a)) : Does R (work >>= next) := by
  intro f
  have hw := h f
  rw [on_bind]
  split
  · rename_i a g hr
    rw [hr] at hw
    exact hw.trans (hnext a g)
  · rename_i e g hr
    rw [hr] at hw
    exact hw

theorem Does.tryCatch {work : FileRun α} {handler : FileError → FileRun α} (h : Does R work)
    (hhandler : ∀ e, Does R (handler e)) : Does R (tryCatch work handler) := by
  intro f
  have hw := h f
  rw [on_tryCatch]
  split
  · rename_i a g hr
    rw [hr] at hw
    exact hw
  · rename_i e g hr
    rw [hr] at hw
    exact hw.trans (hhandler e g)

theorem does_ensureDirectory (mayExist : Bool) (p : Path) (e : FileError) :
    Does R (ensureDirectory mayExist p e) := by
  intro f
  rw [on_ensureDirectory]

theorem does_makeDirectory {p : Path}
    (hR : ∀ f q, f.vacant p = .ok q → R f (f.put q .directory)) : Does R (makeDirectory p) := by
  intro f
  rw [on_makeDirectory]
  split
  · rename_i q hq
    exact .single (hR f q hq)
  · exact .refl

/-- The operation on a child: if the directory above it is missing, that one is made first. -/
theorem makeDirectories_child (mayExist : Bool) (p : Path) (name : Text) :
    makeDirectories mayExist (p.child name) =
      tryCatch (makeDirectory (p.child name)) fun e =>
        match e with
        | .refused .missing _ => do
          makeDirectories true p
          tryCatch (makeDirectory (p.child name)) (ensureDirectory mayExist (p.child name))
        | e => ensureDirectory mayExist (p.child name) e := by
  have hrev : (p.names ++ [name]).reverse = name :: p.names.reverse := by simp
  have hpath : (⟨p.anchor, (name :: p.names.reverse).reverse⟩ : Path) = p.child name := by
    simp [Path.child]
  show makeDirectoriesBack mayExist p.anchor (p.names ++ [name]).reverse = _
  rw [hrev, makeDirectoriesBack, hpath]
  rfl

theorem does_makeDirectories (p : Path)
    (hR : ∀ f a q, a.IsAbove p → f.vacant a = .ok q → R f (f.put q .directory))
    (mayExist : Bool) : Does R (makeDirectories mayExist p) := by
  induction p using Path.childInduction generalizing mayExist with
  | top anchor =>
    exact (does_makeDirectory fun f q h => hR f _ q (Path.isAbove_refl _) h).tryCatch
      fun e => does_ensureDirectory _ _ e
  | child p name ih =>
    have hmake : Does R (makeDirectory (p.child name)) :=
      does_makeDirectory fun f q h => hR f _ q (Path.isAbove_refl _) h
    rw [makeDirectories_child]
    refine hmake.tryCatch fun e => ?_
    split
    · exact (ih (fun f a q ha h => hR f a q (ha.child name) h) true).bind fun _ =>
        hmake.tryCatch fun e => does_ensureDirectory _ _ e
    · exact does_ensureDirectory _ _ _

theorem does_edit_makeDirectories (mayExist : Bool) (p : Path) :
    Does Edit (makeDirectories mayExist p) :=
  does_makeDirectories p (fun _ _ _ _ h => .directory h) mayExist

theorem does_edit_writeFile (p : Path) (content : Bytes) : Does Edit (writeFile p content) := by
  intro f
  rw [on_writeFile]
  split
  · rename_i g hg
    exact .single (.file hg)
  · exact .refl

theorem does_edit_makeLink (p : Path) (target : Text) : Does Edit (makeLink p target) := by
  intro f
  rw [on_makeLink]
  split
  · rename_i q hq
    exact .single (.link hq)
  · exact .refl

theorem does_edit_plant (p : Path) (e : Entry) : Does Edit (plant p e) := by
  refine (does_edit_makeDirectories true p.parent).bind fun _ => ?_
  cases e with
  | directory => exact does_edit_makeDirectories true p
  | file content => exact does_edit_writeFile p content
  | link target => exact does_edit_makeLink p target

/-- What a process writes removes nothing, whether or not its writes are refused. -/
theorem edits_plantAll (base : Path) (items : List (Path × Entry)) (f : Files) :
    ReflTransGen Edit f (plantAll base items f) := by
  induction items generalizing f with
  | nil => exact .refl
  | cons item items ih =>
    exact (does_edit_plant (base.append item.1) item.2 f).trans (ih _)

end FileRun

/-! ## Making directories -/

namespace Files

open FileRun
open Relation (ReflTransGen)

/-- One of the directories on the way to `p` is made. -/
inductive Make (p : Path) (f : Files) : Files → Prop
  | intro {a : Path} {q : Position} :
      a.IsAbove p → f.vacant a = .ok q → Make p f (f.put q .directory)

/-- The tree after making a directory and those above it, as far as that can be done. -/
def withDirectories (f : Files) (p : Path) : Files :=
  ((makeDirectories true p).on f).2

theorem grows_makeDirectories (mayExist : Bool) (p : Path) (f : Files) :
    ReflTransGen (Make p) f ((makeDirectories mayExist p).on f).2 :=
  does_makeDirectories p (fun _ _ _ ha h => .intro ha h) mayExist f

theorem grows_withDirectories (f : Files) (p : Path) :
    ReflTransGen (Make p) f (f.withDirectories p) :=
  grows_makeDirectories true p f

theorem edits_of_grows {f g : Files} {p : Path} (h : ReflTransGen (Make p) f g) :
    ReflTransGen Edit f g := by
  refine ReflTransGen.mono (fun _ _ hmake => ?_) _ _ h
  obtain ⟨-, hvacant⟩ := hmake
  exact .directory hvacant

theorem IsTree.withDirectories {f : Files} (ht : f.IsTree) (p : Path) :
    (f.withDirectories p).IsTree :=
  (isTree_keeps_of_edits ht (edits_of_grows (f.grows_withDirectories p))).1

theorem IsTree.keeps_withDirectories {f : Files} (ht : f.IsTree) (p : Path) :
    f.Keeps (f.withDirectories p) :=
  (isTree_keeps_of_edits ht (edits_of_grows (f.grows_withDirectories p))).2

/-- Every entry stays as it is when directories are made. -/
theorem at?_of_grows {f g : Files} {p : Path} (h : ReflTransGen (Make p) f g) {q : Position}
    {e : Entry} (hq : f.at? q = some e) : g.at? q = some e := by
  induction h with
  | refl => exact hq
  | tail _ hstep ih =>
    obtain ⟨-, hvacant⟩ := hstep
    have hnone := (vacant_eq_ok_iff.1 hvacant).2
    rw [at?_put _ _ (not_isGround_of_at? hnone (by simp)), if_neg, ih]
    rintro rfl
    rw [ih] at hnone
    cases hnone

/-- An entry that directories were made for is a directory to which one of the paths leads. -/
theorem new_of_grows {f g : Files} {p : Path} (ht : f.IsTree) (h : ReflTransGen (Make p) f g)
    {q : Position} {e : Entry} (hq : g.at? q = some e) (hf : f.at? q = none) :
    e = .directory ∧ ∃ a, a.IsAbove p ∧ g.DirectoryAt a q := by
  induction h with
  | refl => rw [hf] at hq; cases hq
  | @tail g k hg hstep ih =>
    have hgt := (isTree_keeps_of_edits ht (edits_of_grows hg)).1
    have hkeeps := (hstep.casesOn fun _ h => Edit.directory h : g.Edit k).isTree_keeps hgt |>.2
    obtain ⟨ha, hvacant⟩ := hstep
    obtain ⟨hl, hnone⟩ := vacant_eq_ok_iff.1 hvacant
    have hat := g.at?_put .directory (not_isGround_of_at? hnone (by simp))
    rw [hat] at hq
    split at hq
    · rename_i heq
      subst heq
      cases hq
      exact ⟨rfl, _, ha, (DirectoryAt.of_filled hgt hkeeps hl (by rw [hat, if_pos rfl])).2⟩
    · obtain ⟨he, a, ha, hd⟩ := ih hq
      exact ⟨he, a, ha, hd.keeps hkeeps⟩

/-! ## The answer -/

/-- A path that leads to a directory is not vacant; the refusal is that it exists. -/
theorem DirectoryAt.vacant {f : Files} {p : Path} {q : Position} (h : f.DirectoryAt p q) :
    f.vacant p = .error (.refused .exists p) := by
  obtain ⟨r, hl, hr⟩ := h.locate_false
  unfold Files.vacant
  rw [hl]
  cases hat : f.at? r with
  | none => exact absurd hat hr
  | some e => simp [bind, Except.bind, hat]

theorem on_ensureDirectory_of_directoryAt {f : Files} {p : Path} {q : Position}
    (h : f.DirectoryAt p q) (e : FileError) : (ensureDirectory true p e).on f = (.ok (), f) := by
  rw [on_ensureDirectory, isDirectory_eq_true_iff.2 ⟨q, h⟩]
  rfl

/-- Only an existing directory is accepted, and only on request. -/
theorem directoryAt_of_ensureDirectory {f : Files} {mayExist : Bool} {p : Path} {e : FileError}
    (h : ((ensureDirectory mayExist p e).on f).1 = .ok ()) :
    mayExist = true ∧ ∃ q, f.DirectoryAt p q := by
  rw [on_ensureDirectory] at h
  rw [← isDirectory_eq_true_iff]
  cases mayExist with
  | false => cases h
  | true =>
    cases hd : f.isDirectory p with
    | error e' => rw [hd] at h; cases h
    | ok there =>
      cases there with
      | true => exact ⟨rfl, rfl⟩
      | false => rw [hd] at h; cases h

/-- A directory that is put where a path leads is where the path leads. -/
theorem directoryAt_put {f : Files} (ht : f.IsTree) {p : Path} {q : Position}
    (h : f.vacant p = .ok q) : (f.put q .directory).DirectoryAt p q := by
  obtain ⟨hl, hq⟩ := vacant_eq_ok_iff.1 h
  refine (DirectoryAt.of_filled ht (.put (.inl hq)) hl ?_).2
  rw [at?_put _ _ (not_isGround_of_at? hq (by simp)), if_pos rfl]

theorem directoryAt_top (f : Files) (anchor : Anchor) :
    f.DirectoryAt ⟨anchor, []⟩ (Position.ofAnchor anchor) := by
  have hfits : Fits ⟨anchor, []⟩ := by cases anchor <;> exact ⟨by decide, by decide⟩
  exact ⟨locate_eq_ok_iff.2 ⟨hfits, .here⟩, f.at?_ofAnchor anchor⟩

theorem on_makeDirectories_top (anchor : Anchor) (f : Files) :
    (makeDirectories true ⟨anchor, []⟩).on f = (.ok (), f) := by
  have hd := f.directoryAt_top anchor
  show (tryCatch (makeDirectory ⟨anchor, []⟩) (ensureDirectory true ⟨anchor, []⟩)).on f = _
  rw [on_tryCatch, on_makeDirectory, hd.vacant]
  exact on_ensureDirectory_of_directoryAt hd _

/-- The answer and the tree for a child, from those for the directory above it. -/
theorem on_makeDirectories_child (mayExist : Bool) (p : Path) (name : Text) (f : Files) :
    (makeDirectories mayExist (p.child name)).on f =
      match f.vacant (p.child name) with
      | .ok q => (.ok (), f.put q .directory)
      | .error (.refused .missing _) =>
        match (makeDirectories true p).on f with
        | (.ok (), g) =>
          match g.vacant (p.child name) with
          | .ok q => (.ok (), g.put q .directory)
          | .error e => (ensureDirectory mayExist (p.child name) e).on g
        | (.error e, g) => (.error e, g)
      | .error e => (ensureDirectory mayExist (p.child name) e).on f := by
  rw [makeDirectories_child, on_tryCatch, on_makeDirectory]
  cases hf : f.vacant (p.child name) with
  | ok q => rfl
  | error e =>
    cases e with
    | embeddedNull => rfl
    | refused fault r =>
      cases fault with
      | missing =>
        simp only [on_bind]
        cases hp : (makeDirectories true p).on f with
        | mk r g =>
          cases r with
          | error e => rfl
          | ok =>
            simp only [on_tryCatch, on_makeDirectory]
            cases g.vacant (p.child name) <;> rfl
      | «exists» => rfl
      | notDirectory => rfl
      | isDirectory => rfl
      | nameTooLong => rfl
      | tooManyLinks => rfl

/-- How making a child directory goes. With the directories above it made, it is put where nothing
stands, or it is left to `ensureDirectory`; the latter may also happen in the tree as it was. Or
the directories above it cannot be made. -/
inductive MakesChild (f : Files) (mayExist : Bool) (p : Path) (name : Text) :
    Except FileError Unit → Files → Prop
  | put {g : Files} {q : Position} :
      (makeDirectories true p).on f = (.ok (), g) → g.vacant (p.child name) = .ok q →
      MakesChild f mayExist p name (.ok ()) (g.put q .directory)
  | settled {g : Files} {e : FileError} :
      g = f ∨ (makeDirectories true p).on f = (.ok (), g) →
      g.vacant (p.child name) = .error e →
      MakesChild f mayExist p name ((ensureDirectory mayExist (p.child name) e).on g).1 g
  | stuck {g : Files} {e : FileError} :
      (makeDirectories true p).on f = (.error e, g) → MakesChild f mayExist p name (.error e) g

theorem directoryAt_of_vacant_child {f : Files} (ht : f.IsTree) {p : Path} {name : Text}
    {q : Position} (h : f.vacant (p.child name) = .ok q) : ∃ r, f.DirectoryAt p r := by
  obtain ⟨r, -, hr, -⟩ := locate_child ht (vacant_eq_ok_iff.1 h).1
  exact ⟨r, hr⟩

/-- Where the directory exists nothing is made. -/
theorem on_makeDirectories_of_directoryAt {f : Files} {p : Path} {q : Position}
    (h : f.DirectoryAt p q) : (makeDirectories true p).on f = (.ok (), f) := by
  cases p using Path.childInduction with
  | top anchor => exact on_makeDirectories_top anchor f
  | child p name =>
    rw [on_makeDirectories_child, h.vacant]
    exact on_ensureDirectory_of_directoryAt h _

theorem makesChild {f g : Files} (ht : f.IsTree) {mayExist : Bool} {p : Path} {name : Text}
    {r : Except FileError Unit} (h : (makeDirectories mayExist (p.child name)).on f = (r, g)) :
    MakesChild f mayExist p name r g := by
  have hsame : ∀ e k, (ensureDirectory mayExist (p.child name) e).on k =
      (((ensureDirectory mayExist (p.child name) e).on k).1, k) := by
    intro e k
    rw [on_ensureDirectory]
  rw [on_makeDirectories_child] at h
  split at h
  · rename_i q hq
    -- the child is vacant, so the directory above it exists, and making that changes nothing
    obtain ⟨k, hk⟩ := directoryAt_of_vacant_child ht hq
    cases h
    exact .put (on_makeDirectories_of_directoryAt hk) hq
  · split at h
    · rename_i k hk
      split at h
      · rename_i q hq
        cases h
        exact .put hk hq
      · rename_i e he
        rw [hsame] at h
        cases h
        exact .settled (.inr hk) he
    · rename_i e k hk
      cases h
      exact .stuck hk
  · rename_i e _ he
    rw [hsame] at h
    cases h
    exact .settled (.inl rfl) he

theorem isTree_of_on {f g : Files} (ht : f.IsTree) {mayExist : Bool} {p : Path}
    {r : Except FileError Unit} (h : (makeDirectories mayExist p).on f = (r, g)) : g.IsTree := by
  have hg := edits_of_grows (grows_makeDirectories mayExist p f)
  rw [h] at hg
  exact (isTree_keeps_of_edits ht hg).1

/-- If making a directory is answered without an error, the directory is there. -/
theorem directoryAt_of_ok {f g : Files} (ht : f.IsTree) {mayExist : Bool} {p : Path}
    (h : (makeDirectories mayExist p).on f = (.ok (), g)) : ∃ q, g.DirectoryAt p q := by
  cases p using Path.childInduction with
  | top anchor => exact ⟨_, g.directoryAt_top anchor⟩
  | child p name =>
    have hmakes := makesChild ht h
    generalize hr : (Except.ok () : Except FileError Unit) = r at hmakes
    cases hmakes with
    | put hg hq => exact ⟨_, directoryAt_put (isTree_of_on ht hg) hq⟩
    | settled _ _ => exact (directoryAt_of_ensureDirectory hr.symm).2
    | stuck _ => cases hr

/-- If making a directory ends with an error, the directory is not there. -/
theorem not_directoryAt_of_error {f g : Files} (ht : f.IsTree) {p : Path} {e : FileError}
    (h : (makeDirectories true p).on f = (.error e, g)) (q : Position) : ¬ g.DirectoryAt p q := by
  induction p using Path.childInduction generalizing e q with
  | top anchor => rw [on_makeDirectories_top] at h; cases h
  | child p name ih =>
    intro hq
    have hmakes := makesChild ht h
    generalize hr : (Except.error e : Except FileError Unit) = r at hmakes
    cases hmakes with
    | put _ _ => cases hr
    | settled _ _ => rw [on_ensureDirectory_of_directoryAt hq] at hr; cases hr
    -- a child that is there has the directory above it there too
    | stuck hg =>
      obtain ⟨r, -, hd, -⟩ := locate_child (isTree_of_on ht hg) hq.1
      exact ih hg r hd

theorem withDirectories_of_directoryAt {f : Files} {p : Path} {q : Position}
    (h : f.DirectoryAt p q) : f.withDirectories p = f :=
  congrArg Prod.snd (on_makeDirectories_of_directoryAt h)

/-- Where a child is not vacant and the directories above it are settled, nothing is made. -/
theorem withDirectories_child_of_not_vacant {f : Files} (ht : f.IsTree) {p : Path} {name : Text}
    (hp : f.withDirectories p = f) (hv : ∀ q, f.vacant (p.child name) ≠ .ok q) :
    f.withDirectories (p.child name) = f := by
  cases h : (makeDirectories true (p.child name)).on f with
  | mk r g =>
    show ((makeDirectories true (p.child name)).on f).2 = f
    rw [h]
    have hsettled : ∀ {r' k}, (makeDirectories true p).on f = (r', k) → k = f := by
      intro r' k hk
      exact (congrArg Prod.snd hk).symm.trans hp
    cases makesChild ht h with
    | put hk hq =>
      obtain rfl := hsettled hk
      exact absurd hq (hv _)
    | settled hk _ =>
      rcases hk with rfl | hk
      · rfl
      · exact hsettled hk
    | stuck hk => exact hsettled hk

/-- To make a directory once more changes nothing, even if it cannot be made. -/
theorem withDirectories_idem {f : Files} (ht : f.IsTree) (p : Path) :
    (f.withDirectories p).withDirectories p = f.withDirectories p := by
  induction p using Path.childInduction with
  | top anchor => simp only [withDirectories, on_makeDirectories_top]
  | child p name ih =>
    cases h : (makeDirectories true (p.child name)).on f with
    | mk r g =>
      have hg : f.withDirectories (p.child name) = g := congrArg Prod.snd h
      have hgt : g.IsTree := isTree_of_on ht h
      rw [hg]
      cases makesChild ht h with
      | put hk hq => exact withDirectories_of_directoryAt (directoryAt_put (isTree_of_on ht hk) hq)
      | settled hk hv =>
        rcases hk with rfl | hk
        · exact hg
        · obtain ⟨q, hq⟩ := directoryAt_of_ok ht hk
          refine withDirectories_child_of_not_vacant hgt (withDirectories_of_directoryAt hq) ?_
          intro r hr
          rw [hv] at hr
          cases hr
      | stuck hk =>
        -- the directory above is missing still, so the child is not vacant
        have hp : f.withDirectories p = g := congrArg Prod.snd hk
        refine withDirectories_child_of_not_vacant hgt (by rw [← hp]; exact ih) ?_
        intro r hr
        obtain ⟨q, hq⟩ := directoryAt_of_vacant_child hgt hr
        exact not_directoryAt_of_error ht hk q hq

/-! ## What is made below a directory -/

/-- Making the directory `p` and those above it makes nothing below the directory itself. -/
def MakesNothingBelow (f : Files) (p : Path) : Prop :=
  ∀ q, (f.withDirectories p).DirectoryAt p q →
    ∀ r, q <+: r → r ≠ q → (f.withDirectories p).at? r = f.at? r

/-- If the directory exists, nothing is made at all. -/
theorem makesNothingBelow_of_directoryAt {f : Files} {p : Path} {q : Position}
    (h : f.DirectoryAt p q) : f.MakesNothingBelow p := by
  intro _ _ r _ _
  rw [withDirectories_of_directoryAt h]

/-- Without double points a path stays below each directory on its way that is new, since no link
stands there. -/
theorem below_of_new {f g : Files} {p : Path} (ht : f.IsTree) (h : ReflTransGen (Make p) f g)
    {a b : Path} {q r : Position} (hnone : f.at? r = none) (ha : g.DirectoryAt a r)
    (hab : a.IsAbove b) (hup : Position.up ∉ b.names) (hb : g.DirectoryAt b q) : r <+: q := by
  have hgt : g.IsTree := (isTree_keeps_of_edits ht (edits_of_grows h)).1
  induction b using Path.childInduction generalizing q with
  | top anchor =>
    obtain rfl := Path.eq_of_isAbove_top hab
    obtain rfl := ha.unique hb
    exact List.prefix_rfl
  | child b name ih =>
    rcases Path.isAbove_child hab with rfl | habove
    · obtain rfl := ha.unique hb
      exact List.prefix_rfl
    · obtain ⟨q', n, hd, hlast⟩ := locate_child hgt hb.1
      have hbelow : r <+: q' :=
        ih habove (fun hmem => hup (List.mem_append_left _ hmem)) hd
      have hname : name ≠ Position.up := by
        rintro rfl
        exact hup (List.mem_append_right _ (List.mem_singleton.2 rfl))
      -- Below a new directory nothing stood before, so what stands there is no link.
      have hnolink : ∀ t, g.at? (q' ++ [name]) ≠ some (.link t) := by
        intro t hlink
        have hbefore := ht.at?_eq_none_below hnone (hbelow.trans (List.prefix_append q' [name]))
        cases (new_of_grows ht h hlink hbefore).1
      obtain ⟨-, rfl⟩ := hlast.single hname fun t hlink => absurd hlink (hnolink t)
      exact hbelow.trans (List.prefix_append _ _)

/-- A path without double points is not left again once it has come to a directory that is missing,
so what is made on the way is not below its end. -/
theorem makesNothingBelow_of_no_up {f : Files} {p : Path} (ht : f.IsTree)
    (hup : Position.up ∉ p.names) : f.MakesNothingBelow p := by
  intro q hq r hqr hne
  have hgrows := f.grows_withDirectories p
  cases hr : f.at? r with
  | some e => exact at?_of_grows hgrows hr
  | none =>
    cases hr' : (f.withDirectories p).at? r with
    | none => rfl
    | some e =>
      obtain ⟨-, a, hap, ha⟩ := new_of_grows ht hgrows hr' hr
      have hrq : r <+: q := below_of_new ht hgrows hr ha hap hup hq
      exact absurd (hrq.eq_of_length (Nat.le_antisymm hrq.length_le hqr.length_le)) hne

/-! ## Removing -/

theorem isGround_of_below {p q : Position} (h : p <+: q) (hq : q.isGround = true) :
    p.isGround = true := by
  unfold Position.isGround at *
  rw [Bool.or_eq_true, decide_eq_true_eq] at *
  rcases hq with hq | rfl
  · refine .inl (List.all_eq_true.2 fun name hname => ?_)
    exact List.all_eq_true.1 hq name (h.subset hname)
  · cases p with
    | nil => exact .inl rfl
    | cons name rest =>
      obtain ⟨more, hmore⟩ := h
      obtain ⟨rfl, hrest⟩ := List.cons.inj hmore
      obtain ⟨rfl, -⟩ := List.append_eq_nil_iff.1 hrest
      exact .inr rfl

theorem at?_without_outside (f : Files) {p q : Position} (h : ¬ p <+: q) :
    (f.without p).at? q = f.at? q := by
  rw [at?_without]
  split
  · rename_i hq
    exact (f.at?_of_isGround hq).symm
  · rw [if_neg (by rwa [List.isPrefixOf_iff_prefix])]

theorem at?_without_below (f : Files) {p q : Position} (hp : p.isGround = false)
    (h : p <+: q) : (f.without p).at? q = none := by
  have hq : q.isGround = false := by
    cases hq : q.isGround with
    | false => rfl
    | true => rw [isGround_of_below h hq] at hp; cases hp
  rw [at?_without, hq, if_neg (by simp), if_pos (List.isPrefixOf_iff_prefix.2 h)]

/-- Trees whose lists of entries differ only at or below a position are the same elsewhere. -/
theorem at?_outside_of_entries {f g : Files} {p q : Position}
    (h : g.entries.filter (fun e => !p.isPrefixOf e.1) =
      f.entries.filter (fun e => !p.isPrefixOf e.1)) (hq : ¬ p <+: q) : g.at? q = f.at? q := by
  have hsame : g.without p = f.without p := congrArg Files.mk h
  rw [← at?_without_outside g hq, hsame, at?_without_outside f hq]

theorem at?_of_without {f : Files} {p q : Position} {e : Entry}
    (h : (f.without p).at? q = some e) : f.at? q = some e := by
  rw [at?_without] at h
  split at h
  · rename_i hq
    rwa [f.at?_of_isGround hq]
  · split at h
    · cases h
    · exact h

theorem IsTree.without {f : Files} (ht : f.IsTree) (p : Position) : (f.without p).IsTree := by
  intro q e hq
  have hd := ht q e (at?_of_without hq)
  cases hg : Position.isGround q.dropLast with
  | true => exact at?_of_isGround _ hg
  | false =>
    have hnq : q.isGround = false := by
      cases hqg : q.isGround with
      | false => rfl
      | true => rw [isGround_of_below (List.dropLast_prefix q) hqg] at hg; cases hg
    rw [at?_without, hnq, if_neg (by simp)] at hq
    split at hq
    · cases hq
    · rename_i hpq
      rw [at?_without_outside, hd]
      intro hp
      exact hpq (List.isPrefixOf_iff_prefix.2 (hp.trans (List.dropLast_prefix q)))

theorem withoutTree_of_locate {f : Files} {p : Path} {q : Position}
    (h : f.locate false p = .ok q) (hq : f.at? q = some .directory) :
    f.withoutTree p = f.without q := by
  simp only [withoutTree, h, hq]

/-- Where a path leads to no directory, nothing is removed. -/
theorem withoutTree_eq_self {f : Files} {p : Path}
    (h : ∀ q, f.locate false p = .ok q → f.at? q ≠ some .directory) : f.withoutTree p = f := by
  unfold withoutTree
  split
  · rename_i q hq
    split
    · rename_i hd
      exact absurd hd (h q hq)
    · rfl
  · rfl

end Files

end ContractBuild
