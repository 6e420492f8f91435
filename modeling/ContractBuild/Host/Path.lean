import ContractBuild.Text.Basic

/-!
# Paths

A path is an anchor and a list of names. Empty names and names of one point are dropped when
a path is read; two points are kept, because what they mean is known only to the files.

Main statements: the directory and the name of a child can be read off its path, so two children
are the same only if both agree.
-/

set_option autoImplicit false

namespace ContractBuild

/-- Where a path starts: at the working directory, at the root, or at the second root that
two leading slashes name. -/
inductive Anchor
  | here
  | root
  | doubleRoot
  deriving DecidableEq, Repr

/-- The text of an anchor. -/
def Anchor.text : Anchor → Text
  | here => []
  | root => ['/']
  | doubleRoot => ['/', '/']

/-- A path. -/
structure Path where
  anchor : Anchor
  names : List Text
  deriving DecidableEq, Repr

namespace Path

/-! ## Reading and writing -/

/-- The anchor that a text shows by its leading slashes: exactly two are a root of their own,
any other number is the usual one. -/
def anchorOf (t : Text) : Anchor :=
  match (t.takeWhile (· = '/')).length with
  | 0 => .here
  | 2 => .doubleRoot
  | _ => .root

/-- The names of a text between its slashes. -/
def namesOf (t : Text) : List Text :=
  (Text.pieces '/' t).filter fun name => name ≠ [] ∧ name ≠ ['.']

/-- The path that a text writes. -/
def ofText (t : Text) : Path :=
  ⟨anchorOf t, namesOf t⟩

/-- The text of a path; the working directory itself is a point. -/
def text (p : Path) : Text :=
  match p.anchor, p.names with
  | .here, [] => ['.']
  | anchor, names => anchor.text ++ Text.join ['/'] names

/-! ## Parts -/

/-- The working directory. -/
def here : Path := ⟨.here, []⟩

/-- The path of an entry of a directory. -/
def child (p : Path) (name : Text) : Path :=
  { p with names := p.names ++ [name] }

/-- The path of the directory that holds the entry. -/
def parent (p : Path) : Path :=
  { p with names := p.names.dropLast }

/-- The path `q` seen from the directory `p`. -/
def append (p q : Path) : Path :=
  match q.anchor with
  | .here => { p with names := p.names ++ q.names }
  | _ => q

/-- Takes a name to those before it, in reverse: two points take the last name away. -/
def collapseName (names : List Text) (name : Text) : List Text :=
  match name, names with
  | ['.', '.'], last :: rest => if last = ['.', '.'] then name :: names else rest
  | _, _ => name :: names

/-- The path without names that are taken back by two points after them. -/
def collapsed (p : Path) : Path :=
  { p with names := (p.names.foldl collapseName []).reverse }

/-- The last name, or the empty text. -/
def name (p : Path) : Text :=
  p.names.getLastD []

/-- Where a name is cut into stem and suffix: before its last point, unless that stands at an
end of the name. -/
def suffixStart? (name : Text) : Option Nat :=
  let tail := (name.reverse.takeWhile (· ≠ '.')).length
  let start := name.length - tail - 1
  if tail < name.length ∧ 0 < start ∧ 0 < tail then some start else none

/-- The suffix of the last name, with its point. -/
def suffix (p : Path) : Text :=
  match suffixStart? p.name with
  | some n => p.name.drop n
  | none => []

/-- The last name without its suffix. -/
def stem (p : Path) : Text :=
  match suffixStart? p.name with
  | some n => p.name.take n
  | none => p.name

/-! ## Laws -/

theorem parent_child (p : Path) (name : Text) : (p.child name).parent = p := by
  simp [child, parent]

/-- The text of the path of an entry is that of its directory, a slash and the name; directly
below an anchor the slash is part of the anchor, or there is none. -/
theorem text_child (p : Path) (name : Text) :
    (p.names = [] ∧ (p.child name).text = p.anchor.text ++ name) ∨
      (p.names ≠ [] ∧ (p.child name).text = p.text ++ '/' :: name) := by
  obtain ⟨anchor, names⟩ := p
  cases names with
  | nil => exact .inl ⟨rfl, by cases anchor <;> simp [child, text, Text.join]⟩
  | cons first rest =>
    refine .inr ⟨List.cons_ne_nil _ _, ?_⟩
    have hj := Text.join_concat ['/'] (List.cons_ne_nil first rest) name
    cases anchor <;> simp only [child, text, List.cons_append] at hj ⊢ <;> rw [hj] <;> simp

theorem name_child (p : Path) (name : Text) : (p.child name).name = name := by
  simp [child, Path.name, List.getLastD_eq_getLast?]

theorem child_inj {p q : Path} {m n : Text} (h : p.child m = q.child n) : p = q ∧ m = n := by
  have hp := congrArg parent h
  have hn := congrArg Path.name h
  rw [parent_child, parent_child] at hp
  rw [name_child, name_child] at hn
  exact ⟨hp, hn⟩

example : (ofText "a//b/./c/").text = "a/b/c" ∧ (ofText "").text = "." := by decide

example : (ofText "//x").text = "//x" ∧ (ofText "///x").text = "/x" := by decide

example : (ofText "..rs").suffix = ".rs" ∧ (ofText "..rs").stem = "." := by decide

example : (ofText ".rs").suffix = [] ∧ (ofText "a.rs.").suffix = [] := by decide

end Path

end ContractBuild
