import ContractBuild.Proofs.Build.CrateName
import ContractBuild.Proofs.Build.Manifest
import ContractBuild.Proofs.Build.Workspace

/-!
# What a project name can reach

Whatever a project is called, its name reaches the file system and the manifest only in the form of
a crate name. So the directory of a build is an entry of the parent directory, the files of the
build are below it, and one manifest differs from another in the quoted name only.

Main statement: `Workspace.name_isContained`.
-/

set_option autoImplicit false

namespace ContractBuild

/-! ## Ways down -/

namespace Path

/-- The name of an entry of a directory: one name, which leads neither back nor up. -/
def IsEntryName (name : Text) : Prop :=
  name ≠ [] ∧ name ≠ ['.'] ∧ name ≠ ['.', '.'] ∧ '/' ∉ name ∧ '\x00' ∉ name

instance (name : Text) : Decidable (IsEntryName name) :=
  inferInstanceAs (Decidable (_ ∧ _))

/-- The path leads from `p` down through entries of directories, by one at least. -/
def IsBelow (p q : Path) : Prop :=
  ∃ names : List Text, names ≠ [] ∧ (∀ name ∈ names, IsEntryName name) ∧
    q = ⟨p.anchor, p.names ++ names⟩

theorem isBelow_child {p : Path} {name : Text} (h : IsEntryName name) : p.IsBelow (p.child name) :=
  ⟨[name], List.cons_ne_nil _ _, fun _ hmem => List.mem_singleton.1 hmem ▸ h, rfl⟩

theorem IsBelow.child {p q : Path} (h : p.IsBelow q) {name : Text} (hname : IsEntryName name) :
    p.IsBelow (q.child name) := by
  obtain ⟨names, -, hnames, rfl⟩ := h
  refine ⟨names ++ [name], List.append_ne_nil_of_right_ne_nil _ (List.cons_ne_nil _ _), ?_, ?_⟩
  · intro other hother
    rcases List.mem_append.1 hother with hmem | hmem
    · exact hnames other hmem
    · exact List.mem_singleton.1 hmem ▸ hname
  · rw [Path.child, List.append_assoc]

end Path

namespace Workspace

open ContractBuild.Path (IsEntryName)

/-- A name that does not begin with a point leads nowhere else if it is a single one. -/
theorem isEntryName_cons {c : Char} {rest : Text} (hc : c ≠ '.') (hslash : '/' ∉ c :: rest)
    (hnull : '\x00' ∉ c :: rest) : IsEntryName (c :: rest) :=
  ⟨List.cons_ne_nil _ _, fun heq => hc (List.cons.inj heq).1, fun heq => hc (List.cons.inj heq).1,
    hslash, hnull⟩

theorem isEntryName_of_isPlain {name : Text} (h : IsPlain name) : IsEntryName name := by
  have hnot : ∀ c : Char, CrateName.isAllowed c = false → c ≠ '-' → c ∉ name := by
    intro c hc hhyphen hmem
    rcases h.2 c hmem with hallowed | rfl
    · rw [hc] at hallowed
      cases hallowed
    · exact hhyphen rfl
  obtain ⟨c, rest, rfl⟩ := List.exists_cons_of_ne_nil h.1
  refine isEntryName_cons ?_ (hnot _ (by decide) (by decide)) (hnot _ (by decide) (by decide))
  rintro rfl
  exact hnot '.' (by decide) (by decide) List.mem_cons_self

/-- The artifact has the crate for its stem. -/
theorem isEntryName_artifact {crate : Text} (h : CrateName.WellFormed crate) :
    IsEntryName (crate ++ (".wasm" : Text)) := by
  have hnot : ∀ c : Char, CrateName.isAllowed c = false → c ∉ (".wasm" : Text) →
      c ∉ crate ++ (".wasm" : Text) := by
    intro c hc hsuffix hmem
    rcases List.mem_append.1 hmem with hcrate | hmem
    · rw [h.isAllowed c hcrate] at hc
      cases hc
    · exact hsuffix hmem
  obtain ⟨c, rest, rfl, hletter⟩ := h.first
  refine isEntryName_cons ?_ (hnot _ (by decide) (by decide)) (hnot _ (by decide) (by decide))
  rintro rfl
  cases hletter

/-- The directory of the workspace is an entry of the parent directory, and its files are below
it. -/
structure IsContained (parent : Path) (w : Workspace) : Prop where
  root : ∃ name, IsEntryName name ∧ w.root = parent.child name
  manifest : w.root.IsBelow w.manifestPath
  source : w.root.IsBelow w.sourcePath
  artifact : w.root.IsBelow w.artifactPath

theorem isContained_named (parent : Path) (project : Text) {h : Host} (htoken : IsHex h.token) :
    (named parent project h).IsContained parent where
  root := ⟨_, isEntryName_of_isPlain (isPlain_directoryName project _ htoken), rfl⟩
  manifest := Path.isBelow_child (by decide)
  source := (Path.isBelow_child (by decide)).child (by decide)
  artifact := by
    refine ⟨artifactNames _, List.cons_ne_nil _ _, fun name hname => ?_, rfl⟩
    have hfixed : ∀ fixed ∈ (["target", Manifest.wasmTarget, "release"] : List Text),
        IsEntryName fixed := by
      decide
    have hcases : name ∈ (["target", Manifest.wasmTarget, "release"] : List Text) ++
        [CrateName.ofProject project ++ (".wasm" : Text)] := hname
    rcases List.mem_append.1 hcases with hmem | hmem
    · exact hfixed name hmem
    · rw [List.mem_singleton.1 hmem]
      exact isEntryName_artifact (CrateName.wellFormed_ofProject project)

/-- Every project, whatever it is called, has a crate name, by which its workspace is contained in
the parent directory and its manifest is made of the same texts as that of any other. A text that is
a crate name already, and does not end in an underscore, is its own, and naming a crate name once
more takes away no more than underscores at its end. -/
theorem name_isContained (parent : Path) (project : Text) {h : Host} (htoken : IsHex h.token) :
    CrateName.WellFormed (CrateName.ofProject project) ∧
      (∃ w, ((name parent project).on h).1 = .ok w ∧ w.crate = CrateName.ofProject project ∧
        w.IsContained parent) ∧
      (∀ template, template = Manifest.contract ∨ template = Manifest.validator →
        ∃ parts, 1 < parts.length ∧ ∀ other,
          Template.expand template (CrateName.ofProject other) =
            .ok (Text.join ('"' :: CrateName.ofProject other ++ ['"']) parts)) ∧
      (∀ other, CrateName.WellFormed other → other.getLast? ≠ some '_' →
        CrateName.ofProject other = other) ∧
      ∃ n, CrateName.ofProject project =
        CrateName.ofProject (CrateName.ofProject project) ++ List.replicate n '_' := by
  have hform := CrateName.wellFormed_ofProject project
  have hcontained := isContained_named parent project htoken
  refine ⟨hform, ⟨named parent project h, rfl, rfl, hcontained⟩, ?_, ?_, ?_⟩
  · intro template htemplate
    obtain ⟨parts, hlength, hparts⟩ := Manifest.exists_parts htemplate
    exact ⟨parts, hlength, fun other => hparts _⟩
  · intro other hother hlast
    rw [CrateName.ofProject_of_wellFormed hother]
    refine Text.dropTrailing_eq_self fun c hc => decide_eq_false ?_
    rintro rfl
    exact hlast hc
  · obtain ⟨dropped, hdropped, hunderscores⟩ :=
      Text.exists_append_dropTrailing (· = '_') (CrateName.ofProject project)
    refine ⟨dropped.length, ?_⟩
    rw [CrateName.ofProject_of_wellFormed hform, ← List.eq_replicate_of_mem fun c hc =>
      of_decide_eq_true (hunderscores c hc)]
    exact hdropped

/-- A name that leads upwards and has a quotation mark, a line break and a letter with a longer
small form: the cut lays an underscore open, which is taken away when the crate name is named once
more. -/
theorem name_isContained_upwards :
    let project : Text := ("../" : Text) ++ List.replicate 63 'a' ++ ("/..\n\"\u0130" : Text)
    IsHex ({} : Host).token ∧
      CrateName.ofProject project = List.replicate 63 'a' ++ ['_'] ∧
      CrateName.ofProject (List.replicate 63 'a' ++ ['_']) = List.replicate 63 'a' ∧
      CrateName.WellFormed (CrateName.ofProject project) ∧
      ∃ w, ((name (Path.ofText "builds") project).on {}).1 = .ok w ∧
        w.IsContained (Path.ofText "builds") := by
  intro project
  have htoken : IsHex ({} : Host).token := by decide
  have hproject : CrateName.ofProject project = List.replicate 63 'a' ++ ['_'] := by
    decide +kernel
  have hagain : CrateName.ofProject (List.replicate 63 'a' ++ ['_']) = List.replicate 63 'a' := by
    decide +kernel
  obtain ⟨hform, ⟨w, hw, -, hcontained⟩, -⟩ :=
    name_isContained (Path.ofText "builds") project htoken
  exact ⟨htoken, hproject, hagain, hform, w, hw, hcontained⟩

end Workspace

end ContractBuild
