import ContractBuild.Proofs.Files.Operations

/-!
# Refusals and paths that are none

A text that holds a null is no path. For a path that is none every change is turned down for this
reason; for any other path a change is refused by the host or it is made.

Main statements: `Files.makeDirectories_refused` and `Files.on_makeDirectories_null`.
-/

set_option autoImplicit false

namespace ContractBuild

/-! ## Nulls in paths -/

namespace Path

theorem null_of_null {p : Path} (h : '\x00' ∈ p.text) (name : Text) :
    '\x00' ∈ (p.child name).text := by
  rcases text_child p name with ⟨hn, -⟩ | ⟨-, ht⟩
  · obtain ⟨anchor, names⟩ := p
    obtain rfl : names = [] := hn
    cases anchor <;> simp [text, Anchor.text, Text.join] at h
  · rw [ht]
    exact List.mem_append_left _ h

/-- A name without a null adds none. -/
theorem null_child_iff (p : Path) {name : Text} (hname : '\x00' ∉ name) :
    '\x00' ∈ (p.child name).text ↔ '\x00' ∈ p.text := by
  constructor
  · intro h
    rcases text_child p name with ⟨-, ht⟩ | ⟨-, ht⟩
    · rw [ht] at h
      rcases List.mem_append.1 h with h | h
      · cases hp : p.anchor <;> simp [hp, Anchor.text] at h
      · exact absurd h hname
    · rw [ht] at h
      rcases List.mem_append.1 h with h | h
      · exact h
      · simp only [List.mem_cons, Char.reduceEq, false_or] at h
        exact absurd h hname
  · intro h
    exact null_of_null h name

end Path

/-! ## Refusals -/

namespace Files

variable {f g : Files} {p : Path} {e : FileError}

theorem locate_refused {follow : Bool} (hp : '\x00' ∉ p.text)
    (h : f.locate follow p = .error e) : e ≠ .embeddedNull := by
  rintro rfl
  exact hp (locate_embeddedNull_iff.1 h)

theorem vacant_refused (hp : '\x00' ∉ p.text) (h : f.vacant p = .error e) : e ≠ .embeddedNull := by
  unfold vacant at h
  cases hl : f.locate false p with
  | error e' =>
    rw [hl] at h
    cases h
    exact locate_refused hp hl
  | ok q =>
    rw [hl] at h
    simp only [bind, Except.bind] at h
    cases hq : f.at? q with
    | none => rw [hq] at h; cases h
    | some entry => rw [hq] at h; cases h; simp

theorem written_refused {content : Bytes} (hp : '\x00' ∉ p.text)
    (h : f.written p content = .error e) : e ≠ .embeddedNull := by
  unfold written at h
  cases hl : f.locate true p with
  | error e' =>
    rw [hl] at h
    cases h
    exact locate_refused hp hl
  | ok q =>
    rw [hl] at h
    simp only [bind, Except.bind] at h
    split at h
    · cases h; simp
    · cases h

/-- Questions are refused for a path that is too long only. -/
theorem find?_refused (h : f.find? p = .error e) : e ≠ .embeddedNull := by
  unfold find? at h
  split at h
  · cases h
  · cases h; simp
  · cases h

theorem isThere_refused (h : f.isThere p = .error e) : e ≠ .embeddedNull := by
  unfold isThere at h
  cases hf : f.find? p with
  | error e' => rw [hf] at h; cases h; exact find?_refused hf
  | ok entry => rw [hf] at h; cases h

theorem ensureDirectory_refused {mayExist : Bool} {e' : FileError} (he : e' ≠ .embeddedNull)
    (h : ((FileRun.ensureDirectory mayExist p e').on f).1 = .error e) : e ≠ .embeddedNull := by
  rw [FileRun.on_ensureDirectory] at h
  cases mayExist with
  | false => cases h; exact he
  | true =>
    simp only [if_true] at h
    split at h
    · cases h
    · cases h; exact he
    · rename_i e'' hd
      cases h
      unfold isDirectory at hd
      cases hf : f.find? p with
      | error fault => rw [hf] at hd; cases hd; exact find?_refused hf
      | ok entry => rw [hf] at hd; cases hd

theorem makeDirectories_refused (ht : f.IsTree) {mayExist : Bool} (hp : '\x00' ∉ p.text)
    (h : (FileRun.makeDirectories mayExist p).on f = (.error e, g)) : e ≠ .embeddedNull := by
  induction p using Path.childInduction generalizing mayExist e g with
  | top anchor =>
    have hmade : (FileRun.makeDirectories mayExist ⟨anchor, []⟩).on f =
        (FileRun.ensureDirectory mayExist ⟨anchor, []⟩ (.refused .exists ⟨anchor, []⟩)).on f := by
      show (tryCatch (FileRun.makeDirectory ⟨anchor, []⟩)
        (FileRun.ensureDirectory mayExist ⟨anchor, []⟩)).on f = _
      rw [FileRun.on_tryCatch, FileRun.on_makeDirectory, (f.directoryAt_top anchor).vacant]
    rw [hmade] at h
    exact ensureDirectory_refused (by simp) (congrArg Prod.fst h)
  | child p name ih =>
    have hmakes := makesChild ht h
    generalize hr : (Except.error e : Except FileError Unit) = r at hmakes
    cases hmakes with
    | put => cases hr
    | settled _ hv => exact ensureDirectory_refused (vacant_refused hp hv) hr.symm
    | stuck hk =>
      cases hr
      exact ih (fun hnull => hp (Path.null_of_null hnull name)) hk

theorem on_makeDirectories_null {name : Text} (hp : '\x00' ∈ (p.child name).text) (f : Files) :
    (FileRun.makeDirectories false (p.child name)).on f = (.error .embeddedNull, f) := by
  have hv : f.vacant (p.child name) = .error .embeddedNull := by
    unfold vacant
    rw [locate_embeddedNull_iff.2 hp]
    rfl
  rw [on_makeDirectories_child, hv]
  rfl

end Files

end ContractBuild
