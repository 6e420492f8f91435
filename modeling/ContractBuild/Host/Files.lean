import ContractBuild.Host.OsError
import ContractBuild.Host.Path
import ContractBuild.Text.Utf8

/-!
# Files

A tree of files, seen from a working directory: directories, files with their content, and
symbolic links. Every entry stands at a position, the list of names that leads to it without
links. Paths are resolved to positions as an operating system does it: name by name, through
links, with limits on the length of names and paths and on the number of links.

Operations that change the tree run in `FileRun`; one that is refused leaves behind what it
has done so far.

Main statements: `Files.at?_put` and `Files.at?_without` say what stands where after an entry
is put or a part of the tree is removed: an entry changes its own position only, and a removal
the position and all below it.
-/

set_option autoImplicit false

namespace ContractBuild

/-! ## Positions and entries -/

/-- The names that lead from the working directory to an entry. A position outside it starts
with as many double points as directories are left, or with the name `/`. -/
abbrev Position := List Text

namespace Position

/-- The name for the directory above. -/
def up : Text := ['.', '.']

/-- The position of the root. -/
def root : Position := [['/']]

/-- Whether a position is the working directory, a directory above it, or the root. These
always exist. -/
def isGround (p : Position) : Bool :=
  p.all (· = up) || p = root

/-- The position of the directory above. -/
def above (p : Position) : Position :=
  if p = root then p
  else if p.all (· = up) then p ++ [up]
  else p.dropLast

/-- Whether a position lies outside the working directory. -/
def isOutside (p : Position) : Bool :=
  p.head? = some up || p.head? = some ['/']

/-- Where the names of a path start. -/
def ofAnchor : Anchor → Position
  | .here => []
  | _ => root

/-- Where the names of the target of a link start, if the link stands in `base`. -/
def ofLink (base : Position) : Anchor → Position
  | .here => base
  | anchor => ofAnchor anchor

end Position

/-- What stands at a position. -/
inductive Entry
  | directory
  | file (content : Bytes)
  | link (target : Text)
  deriving DecidableEq, Repr

/-- A tree of files. The positions of its entries differ, and ground positions are not among
them. -/
structure Files where
  entries : List (Position × Entry) := []
  deriving DecidableEq, Repr

/-- Why an operation on files fails: it is refused for a path, or the path holds a character
that no name can hold. -/
inductive FileError
  | refused (fault : FileFault) (path : Path)
  | embeddedNull
  deriving DecidableEq, Repr

/-- The wording of an error. -/
def FileError.message : FileError → Text
  | refused fault path => (fault.error path.text).message
  | embeddedNull => "embedded null byte"

theorem FileError.message_of_isUnescaped {fault : FileFault} {path : Path}
    (h : ∀ c ∈ path.text, Text.isUnescaped c = true) :
    (FileError.refused fault path).message = "[Errno " ++ Text.ofInt fault.number ++ "] " ++
      fault.text ++ (':' :: ' ' :: ('\'' :: path.text ++ ['\''])) :=
  OsError.message_of_isUnescaped h

/-- Operations that change a tree of files. -/
abbrev FileRun := ExceptT FileError (StateM Files)

namespace Files

/-! ## Entries -/

/-- What stands at a position. -/
def at? (f : Files) (p : Position) : Option Entry :=
  if p.isGround then some .directory else f.entries.lookup p

/-- The tree with an entry at a position, in place of what stood there. -/
def put (f : Files) (p : Position) (e : Entry) : Files :=
  ⟨f.entries.filter (·.1 ≠ p) ++ [(p, e)]⟩

/-- The tree without the entries at or below a position. -/
def without (f : Files) (p : Position) : Files :=
  ⟨f.entries.filter fun e => !p.isPrefixOf e.1⟩

/-! ## Laws of lookup -/

theorem lookup_filter_of_kept {es : List (Position × Entry)} {q : Position}
    {keep : Position → Bool} (h : keep q = true) :
    (es.filter fun e => keep e.1).lookup q = es.lookup q := by
  induction es with
  | nil => rfl
  | cons e es ih =>
    obtain ⟨p, entry⟩ := e
    by_cases hp : q = p
    · subst hp; simp [h]
    · have hb : (q == p) = false := by simpa using hp
      by_cases hk : keep p <;> simp [hk, List.lookup_cons, hb, ih]

theorem lookup_filter_of_dropped {es : List (Position × Entry)} {q : Position}
    {keep : Position → Bool} (h : keep q = false) :
    (es.filter fun e => keep e.1).lookup q = none := by
  rw [List.lookup_eq_none_iff]
  rintro ⟨p, entry⟩ hm
  have hk := (List.mem_filter.1 hm).2
  simp only [bne_iff_ne, ne_eq]
  rintro rfl
  simp [h] at hk

/-- An entry changes what stands at its position and nowhere else. -/
theorem at?_put (f : Files) {p : Position} (e : Entry) (hp : p.isGround = false)
    (q : Position) : (f.put p e).at? q = if q = p then some e else f.at? q := by
  unfold at? put
  by_cases hq : q = p
  · subst hq
    have hn : (f.entries.filter fun e => decide (e.1 ≠ q)).lookup q = none :=
      @lookup_filter_of_dropped _ q (fun p => decide (p ≠ q)) (by simp)
    rw [List.lookup_append, hn]
    simp [hp]
  · have hk : (f.entries.filter fun e => decide (e.1 ≠ p)).lookup q = f.entries.lookup q :=
      @lookup_filter_of_kept _ q (fun r => decide (r ≠ p)) (by simpa using hq)
    have hb : (q == p) = false := by simpa using hq
    rw [List.lookup_append, hk]
    simp [hq, List.lookup_cons, hb]

/-- What stands at or below the position is gone, and all else is as it was. -/
theorem at?_without (f : Files) (p q : Position) :
    (f.without p).at? q =
      if q.isGround then some .directory else if p.isPrefixOf q then none else f.at? q := by
  unfold at? without
  by_cases hq : q.isGround
  · simp [hq]
  · by_cases hpq : p.isPrefixOf q
    · have := @lookup_filter_of_dropped f.entries q (fun r => !p.isPrefixOf r) (by simp [hpq])
      simp [hq, hpq, this]
    · rw [Bool.not_eq_true] at hpq
      have := @lookup_filter_of_kept f.entries q (fun r => !p.isPrefixOf r)
        (by simp only [hpq, Bool.not_false])
      simp [hq, hpq, this]

/-! ## Resolving paths -/

/-- The most bytes of a name. -/
def nameLimit : Nat := 255

/-- A path of this many bytes is too long. -/
def pathLimit : Nat := 4096

/-- The most links on the way to an entry. -/
def linkLimit : Nat := 40

/-- Follows names from a position up to the first link that has to be followed; from there
`jump` goes on, from the place where the target of the link starts. The last name need not
exist; if it is a link, `follow` says whether it is followed too. -/
def walkNames (f : Files) (follow : Bool)
    (jump : Position → List Text → Except FileFault Position) :
    Position → List Text → Except FileFault Position
  | base, [] => .ok base
  | base, name :: rest =>
    if name = Position.up then walkNames f follow jump base.above rest
    else if nameLimit < (Text.encode name).length then .error .nameTooLong
    else
      let next := base ++ [name]
      match f.at? next with
      | none => if rest.isEmpty then .ok next else .error .missing
      | some .directory => walkNames f follow jump next rest
      | some (.file _) => if rest.isEmpty then .ok next else .error .notDirectory
      | some (.link target) =>
        if rest.isEmpty && !follow then .ok next
        else
          let path := Path.ofText target
          jump (Position.ofLink base path.anchor) (path.names ++ rest)

/-- Follows names from a position, through at most `links` links. -/
def walk (f : Files) (follow : Bool) (links : Nat) :
    Position → List Text → Except FileFault Position :=
  match links with
  | 0 => walkNames f follow fun _ _ => .error .tooManyLinks
  | links + 1 => walkNames f follow (walk f follow links)

/-- The position of a path. -/
def locate (f : Files) (follow : Bool) (p : Path) : Except FileError Position :=
  if '\x00' ∈ p.text then .error .embeddedNull
  else if pathLimit ≤ (Text.encode p.text).length then .error (.refused .nameTooLong p)
  else match f.walk follow linkLimit (Position.ofAnchor p.anchor) p.names with
    | .ok position => .ok position
    | .error fault => .error (.refused fault p)

/-! ## Questions -/

/-- What stands at a path, through links. That nothing stands there is no error, whatever the
reason; only a path that is too long cannot be asked about. -/
def find? (f : Files) (p : Path) : Except FileError (Option Entry) :=
  match f.locate true p with
  | .ok position => .ok (f.at? position)
  | .error (.refused .nameTooLong p) => .error (.refused .nameTooLong p)
  | .error _ => .ok none

/-- Whether something stands at a path. -/
def isThere (f : Files) (p : Path) : Except FileError Bool :=
  (f.find? p).map Option.isSome

/-- Whether a file stands at a path. -/
def isFile (f : Files) (p : Path) : Except FileError Bool :=
  (f.find? p).map fun e => match e with
    | some (.file _) => true
    | _ => false

/-- Whether a directory stands at a path. -/
def isDirectory (f : Files) (p : Path) : Except FileError Bool :=
  (f.find? p).map fun e => e == some .directory

/-- The content of the file at a path. -/
def read (f : Files) (p : Path) : Except FileError Bytes := do
  match f.at? (← f.locate true p) with
  | some (.file content) => .ok content
  | some _ => .error (.refused .isDirectory p)
  | none => .error (.refused .missing p)

/-! ## Changes -/

/-- The position at which a new entry for a path is to stand. -/
def vacant (f : Files) (p : Path) : Except FileError Position := do
  let position ← f.locate false p
  match f.at? position with
  | some _ => .error (.refused .exists p)
  | none => .ok position

/-- The tree after writing a file; the directory has to exist. -/
def written (f : Files) (p : Path) (content : Bytes) : Except FileError Files := do
  let position ← f.locate true p
  match f.at? position with
  | some .directory => .error (.refused .isDirectory p)
  | _ => .ok (f.put position (.file content))

/-- The tree without the directory at a path and all below it. Nothing else is removed, and
nothing is refused. -/
def withoutTree (f : Files) (p : Path) : Files :=
  match f.locate false p with
  | .ok position =>
    match f.at? position with
    | some .directory => f.without position
    | _ => f
  | .error _ => f

/-! ## Listing -/

/-- How an entry is listed: a directory ends in a slash, a link to a directory in `@`. -/
def listed (f : Files) (e : Position × Entry) : Text :=
  let name := Text.join ['/'] e.1
  match e.2 with
  | .directory => name ++ ['/']
  | .file _ => name
  | .link _ =>
    match f.walk true linkLimit [] e.1 with
    | .ok position => if f.at? position = some .directory then name ++ ['@'] else name
    | .error _ => name

/-- Everything below the working directory, sorted by code points. -/
def listing (f : Files) : List Text :=
  ((f.entries.filter fun e => !Position.isOutside e.1).map f.listed).mergeSort Text.precedes

/-- The files below a position, each with its name seen from there and its content. Links to
files are listed with the content that they lead to. -/
def contentsBelow (f : Files) (p : Position) : List (Text × Bytes) :=
  f.entries.filterMap fun e =>
    if p.isPrefixOf e.1 then
      match f.walk true linkLimit [] e.1 with
      | .ok position =>
        match f.at? position with
        | some (.file content) => some (Text.join ['/'] (e.1.drop p.length), content)
        | _ => none
      | .error _ => none
    else none

end Files

/-! ## Operations -/

namespace FileRun

/-- Asks the tree. -/
def ask {α : Type} (question : Files → Except FileError α) : FileRun α := do
  let f ← get
  liftExcept (question f)
where
  /-- A finished answer as an operation. -/
  liftExcept : Except FileError α → FileRun α
    | .ok a => pure a
    | .error e => throw e

/-- Makes one directory. -/
def makeDirectory (p : Path) : FileRun Unit := do
  let position ← ask (·.vacant p)
  modify (·.put position .directory)

/-- Makes one directory. If it exists already, that is accepted on request. -/
def ensureDirectory (mayExist : Bool) (p : Path) (e : FileError) : FileRun Unit := do
  if mayExist then
    if ← ask (·.isDirectory p) then pure () else throw e
  else throw e

/-- Makes the directory whose names are given in reverse, and those above it that are
missing. -/
def makeDirectoriesBack (mayExist : Bool) (anchor : Anchor) : List Text → FileRun Unit
  | [] =>
    tryCatch (makeDirectory ⟨anchor, []⟩) (ensureDirectory mayExist ⟨anchor, []⟩)
  | name :: above =>
    let p : Path := ⟨anchor, (name :: above).reverse⟩
    tryCatch (makeDirectory p) fun e =>
      match e with
      | .refused .missing _ => do
        makeDirectoriesBack true anchor above
        tryCatch (makeDirectory p) (ensureDirectory mayExist p)
      | e => ensureDirectory mayExist p e

/-- Makes a directory and those above it that are missing. -/
def makeDirectories (mayExist : Bool) (p : Path) : FileRun Unit :=
  makeDirectoriesBack mayExist p.anchor p.names.reverse

/-- Writes a file. -/
def writeFile (p : Path) (content : Bytes) : FileRun Unit := do
  set (← ask (·.written p content))

/-- Makes a symbolic link. -/
def makeLink (p : Path) (target : Text) : FileRun Unit := do
  let position ← ask (·.vacant p)
  modify (·.put position (.link target))

/-- Makes an entry and the directories above it. -/
def plant (p : Path) (e : Entry) : FileRun Unit := do
  makeDirectories true p.parent
  match e with
  | .directory => makeDirectories true p
  | .file content => writeFile p content
  | .link target => makeLink p target

/-- The tree after several entries are made; those that are refused are left out. -/
def plantAll (base : Path) (items : List (Path × Entry)) (f : Files) : Files :=
  items.foldl (fun f item => ((plant (base.append item.1) item.2).run f).2) f

end FileRun

end ContractBuild
