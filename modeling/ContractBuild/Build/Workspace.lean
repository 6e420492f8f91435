import ContractBuild.Build.CrateName
import ContractBuild.Build.Manifest
import ContractBuild.Host.Basic

/-!
# Workspaces

A workspace is a directory of its own for one build, with a manifest and one source file. It
is made when a build starts and removed on every way out of it.

Main statement: `release` ends with the files of `Files.withoutTree` (`files_release`).
-/

set_option autoImplicit false

namespace ContractBuild

/-- The directory of a build, and the name of the crate in it. -/
structure Workspace where
  root : Path
  crate : Text
  deriving DecidableEq, Repr

namespace Workspace

/-! ## Layout -/

/-- The directory of the source. -/
def sourceDirectory (w : Workspace) : Path :=
  w.root.child "src"

/-- The manifest. -/
def manifestPath (w : Workspace) : Path :=
  w.root.child "Cargo.toml"

/-- The source. -/
def sourcePath (w : Workspace) : Path :=
  w.sourceDirectory.child "main.rs"

/-- The place of the artifact, seen from the directory of the build. -/
def artifactNames (crate : Text) : List Text :=
  ["target", Manifest.wasmTarget, "release", crate ++ (".wasm" : Text)]

/-- The artifact. -/
def artifactPath (w : Workspace) : Path :=
  ⟨w.root.anchor, w.root.names ++ artifactNames w.crate⟩

/-- The place of the artifact as it is told to the user. -/
def artifactText (w : Workspace) : Text :=
  Path.text ⟨.here, artifactNames w.crate⟩

/-- The name of the directory: the crate, the reading of the counter and the start of the
token keep it apart from all others. -/
def directoryName (crate : Text) (tick : Int) (token : Text) : Text :=
  crate ++ '-' :: Text.ofInt tick ++ '-' :: token.take 8

/-! ## Making and removing -/

/-- A workspace with a name that is not used yet; nothing is made. -/
def name (parent : Path) (project : Text) : Run Workspace := do
  let crate := CrateName.ofProject project
  let tick ← Run.tick
  let token := (← get).token
  return ⟨parent.child (directoryName crate tick token), crate⟩

/-- Makes the directory and fills it. -/
def fill (w : Workspace) (source template : Text) : Run Unit := do
  Run.onFiles (FileRun.makeDirectories false w.sourceDirectory)
  let manifest ← Run.answer .template (Template.expand template w.crate)
  Run.onFiles (FileRun.writeFile w.manifestPath (Text.encode manifest))
  Run.onFiles (FileRun.writeFile w.sourcePath (Text.encode source))

/-- The failure to make a workspace: a refusal is reported with the directory. -/
def setupFailure (w : Workspace) : Failure → Failure
  | .file (.refused fault path) => .setup w.root (.refused fault path)
  | e => e

/-- Makes the workspace. -/
def prepare (w : Workspace) (source template : Text) : Run Unit := do
  tryCatch (w.fill source template) fun e => throw (w.setupFailure e)
  Run.log .debug ("Prepared build environment " ++ w.root.text)

/-- Removes the directory and all below it, as far as that can be done. -/
def release (w : Workspace) : Run Unit := do
  modify fun h => { h with files := h.files.withoutTree w.root }
  Run.note (.removed w.root)
  if ← Run.ask (·.isThere w.root) then
    Run.log .warning ("Could not fully remove build directory " ++ w.root.text)
  else
    Run.log .debug ("Removed build environment " ++ w.root.text)

/-- Makes a workspace. What an attempt that fails has made is removed. -/
def acquire (parent : Path) (project source template : Text) : Run Workspace := do
  let w ← name parent project
  match ← Run.attempt (w.prepare source template) with
  | .ok () => return w
  | .error e => do
    w.release
    throw e

/-- Works in a workspace, and removes it whatever the work comes to. -/
def within {α : Type} (parent : Path) (project source template : Text)
    (work : Workspace → Run α) : Run α := do
  let w ← acquire parent project source template
  let result ← Run.attempt (work w)
  w.release
  Run.answer id result

/-- Whether or not the removal can be checked, the files afterwards are those without the
directory. -/
theorem files_release (w : Workspace) (h : Host) :
    (w.release.on h).2.files = h.files.withoutTree w.root := by
  simp only [release, Run.on_bind, Run.on_modify, Run.on_note, Run.on_ask]
  cases (h.files.withoutTree w.root).isThere w.root with
  | ok there => cases there <;> rfl
  | error e => rfl

end Workspace

end ContractBuild
