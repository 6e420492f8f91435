import ContractBuild.Text.Blank
import ContractBuild.Text.LetterCase

/-!
# Crate names

A project may have any name; the crate that is built for it has a name of small ASCII
letters, digits and underscores that starts with a letter and has at most `maxLength`
characters, so that it is safe as a part of a file name and of a manifest.
-/

set_option autoImplicit false

namespace ContractBuild.CrateName

/-- The most characters of a crate name. -/
def maxLength : Nat := 64

/-- The name of a crate whose project name leaves nothing to use. -/
def fallback : Text := "contract"

/-- Whether a character may stand in a crate name. -/
def isAllowed (c : Char) : Bool :=
  c.isLower || c.isDigit || c = '_'

/-- Takes one more character in front; the flag tells that a character which may not stand
in the name comes next. -/
def squeezeStep (c : Char) (state : Bool × Text) : Bool × Text :=
  if isAllowed c then (false, c :: state.2)
  else (true, if state.1 then state.2 else '_' :: state.2)

/-- The text with each run of characters that may not stand in the name turned into one
underscore. -/
def squeeze (t : Text) : Text :=
  (t.foldr squeezeStep (false, [])).2

/-- The part of a project name that can be used, before the first letter and the length are
seen to. -/
def usable (project : Text) : Text :=
  Text.trim (· = '_') (squeeze (Text.lower (Text.strip project)))

/-- The name of the crate for a project. -/
def ofProject (project : Text) : Text :=
  match usable project with
  | [] => fallback
  | c :: rest =>
    (if c.isLower then c :: rest else fallback ++ '_' :: c :: rest).take maxLength

end ContractBuild.CrateName
