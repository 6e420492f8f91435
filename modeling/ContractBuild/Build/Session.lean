import ContractBuild.Build.Workspace

/-!
# Sessions

Several workspaces that are open at the same time, each under a label. They may be opened and
closed in any order.
-/

set_option autoImplicit false

namespace ContractBuild

/-- The open workspaces, the newest first, with their labels. -/
structure Session where
  opened : List (Text × Workspace) := []
  deriving DecidableEq, Repr

namespace Session

/-- The workspace under a label. -/
def find? (s : Session) (label : Text) : Option Workspace :=
  s.opened.lookup label

/-- The session without a label. -/
def forget (s : Session) (label : Text) : Session :=
  ⟨s.opened.filter (·.1 ≠ label)⟩

/-- The session with a workspace under a label. -/
def remember (s : Session) (label : Text) (w : Workspace) : Session :=
  ⟨(label, w) :: (s.forget label).opened⟩

/-- Opens a workspace under a label. If the label is in use, the workspace that has had it
is removed afterwards. -/
def openAs (s : Session) (label : Text) (parent : Path) (project source template : Text) :
    Run (Workspace × Session) := do
  let w ← Workspace.acquire parent project source template
  match s.find? label with
  | some old => do
    let _ ← Run.attempt old.release
    return (w, s.remember label w)
  | none => return (w, s.remember label w)

/-- Removes the workspace under a label. -/
def close (s : Session) (label : Text) : Run Unit :=
  match s.find? label with
  | some w => w.release
  | none => throw (.unknownLabel label)

end Session

end ContractBuild
