import ContractBuild.Text.Blank

/-!
# Files of variables

The grammar of a file that sets variables: one binding a line, `name = value`, perhaps behind
the word `export`. Names and values may be quoted, values may refer to variables that are set
already, and what follows a number sign is a comment. A line that is no binding is passed
over.
-/

set_option autoImplicit false

namespace ContractBuild.EnvFile

open Text (isBlank)

/-- A blank that does not end a line. -/
def isInlineBlank (c : Char) : Bool :=
  isBlank c && c ≠ '\n' && c ≠ '\r'

/-- A character that ends a line. -/
def isLineEnd (c : Char) : Bool :=
  c = '\n' || c = '\r'

/-- The text after the line break that it begins with. -/
def dropLineBreak : Text → Text
  | '\r' :: '\n' :: rest => rest
  | c :: rest => if isLineEnd c then rest else c :: rest
  | [] => []

/-- The text from the next line on. -/
def nextLine (t : Text) : Text :=
  dropLineBreak (t.dropWhile fun c => !isLineEnd c)

/-! ## Names -/

/-- The text behind a leading `export`. -/
def afterExport (t : Text) : Text :=
  match Text.after? "export" t with
  | some rest => if rest.head?.any isInlineBlank then rest.dropWhile isInlineBlank else t
  | none => t

/-- A name, and what follows it. In apostrophes a name may hold any other character. -/
def name? : Text → Option (Text × Text)
  | '\'' :: rest =>
    match rest.span (· ≠ '\'') with
    | (c :: name, _ :: after) => some (c :: name, after)
    | _ => none
  | t =>
    match t.span fun c => !(c = '=' || c = '#' || isBlank c) with
    | (c :: name, after) => some (c :: name, after)
    | _ => none

/-! ## Values -/

/-- The text up to the closing mark, and what follows it. A mark behind a backslash does not
close the text, unless no other one does. -/
def quotedBody? (mark : Char) : Text → Option (Text × Text)
  | [] => none
  | [c] => if c = mark then some ([], []) else none
  | c :: d :: rest =>
    if c = mark then some ([], d :: rest)
    else if c = '\\' ∧ d = mark then
      match quotedBody? mark rest with
      | some (body, after) => some (c :: mark :: body, after)
      | none => some ([c], rest)
    else (quotedBody? mark (d :: rest)).map fun r => (c :: r.1, r.2)

/-- What a character behind a backslash stands for in apostrophes. -/
def plainEscape? : Char → Option Char
  | '\\' => some '\\'
  | '\'' => some '\''
  | _ => none

/-- What a character behind a backslash stands for in double quotes. -/
def richEscape? : Char → Option Char
  | '\\' => some '\\'
  | '\'' => some '\''
  | '"' => some '"'
  | 'a' => some '\x07'
  | 'b' => some '\x08'
  | 'f' => some '\x0c'
  | 'n' => some '\n'
  | 'r' => some '\r'
  | 't' => some '\t'
  | 'v' => some '\x0b'
  | _ => none

/-- The text with its escapes replaced by what they stand for. -/
def unescape (escape? : Char → Option Char) : Text → Text
  | '\\' :: c :: rest =>
    match escape? c with
    | some d => d :: unescape escape? rest
    | none => '\\' :: unescape escape? (c :: rest)
  | c :: rest => c :: unescape escape? rest
  | [] => []

/-- The text before the first comment that stands behind a blank. -/
def beforeComment (t : Text) : Text :=
  match t with
  | [] => []
  | c :: rest =>
    if isBlank c && ((c :: rest).dropWhile isBlank).head? = some '#' then []
    else c :: beforeComment rest

/-- A value, and what follows it. -/
def value? : Text → Option (Text × Text)
  | '\'' :: rest => (quotedBody? '\'' rest).map fun r => (unescape plainEscape? r.1, r.2)
  | '"' :: rest => (quotedBody? '"' rest).map fun r => (unescape richEscape? r.1, r.2)
  | t =>
    let line := t.span fun c => !isLineEnd c
    some (Text.dropTrailing isBlank (beforeComment line.1), line.2)

/-! ## Bindings -/

/-- The text behind a comment that it may begin with. -/
def afterComment (t : Text) : Text :=
  match t.dropWhile isInlineBlank with
  | '#' :: rest => rest.dropWhile fun c => !isLineEnd c
  | _ => t

/-- The text from the next line on, if nothing is left on this one. -/
def lineEnd? (t : Text) : Option Text :=
  match t.dropWhile isInlineBlank with
  | [] => some []
  | c :: rest => if isLineEnd c then some (dropLineBreak (c :: rest)) else none

/-- A value behind an equals sign, if there is one, and what follows. The second text is
where reading stopped if the value is malformed. -/
def assigned (t : Text) : Except Text (Option Text × Text) :=
  match t with
  | '=' :: rest =>
    let t := rest.dropWhile isInlineBlank
    match value? t with
    | some (v, after) => .ok (some v, after)
    | none => .error t
  | t => .ok (none, t)

/-- The binding at the start of a text that is neither empty nor begins with a blank, or none
if there is only a comment; and what follows. If the line is malformed, the error says where. -/
def binding (t : Text) : Except Text (Option (Text × Option Text) × Text) := do
  let t := afterExport t
  let (name, after) ←
    if t.head? = some '#' then pure (none, t)
    else match name? t with
      | some (name, after) => pure (some name, after)
      | none => throw t
  let (value, after) ← assigned (after.dropWhile isInlineBlank)
  let after := afterComment after
  match lineEnd? after with
  | some rest => return (name.map fun n => (n, value), rest)
  | none => throw after

/-- The bindings of a text; `fuel` bounds the number of lines. -/
def bindingsWith : Nat → Text → List (Text × Option Text)
  | 0, _ => []
  | fuel + 1, t =>
    match t.dropWhile isBlank with
    | [] => []
    | c :: rest =>
      match binding (c :: rest) with
      | .ok (some b, after) => b :: bindingsWith fuel after
      | .ok (none, after) => bindingsWith fuel after
      | .error stopped => bindingsWith fuel (nextLine stopped)

/-- The bindings of a file, in order. A name without an equals sign has no value. -/
def bindings (t : Text) : List (Text × Option Text) :=
  bindingsWith (t.length + 1) t

/-! ## References -/

/-- A reference at the start of a text: the name, the text to be used without a value, and
what follows. -/
def reference? (t : Text) : Option (Text × Text × Text) := do
  let t ← Text.after? ['$', '\x7b'] t
  let (name, rest) := t.span fun c => c ≠ '\x7d' ∧ c ≠ ':'
  match rest with
  | ':' :: '-' :: rest =>
    match rest.span (· ≠ '\x7d') with
    | (fallback, _ :: after) => some (name, fallback, after)
    | _ => none
  | '\x7d' :: after => some (name, [], after)
  | _ => none

/-- The text with its references replaced; `fuel` bounds the characters that are read. -/
def resolveWith (lookup : Text → Option (Option Text)) : Nat → Text → Text
  | 0, t => t
  | _, [] => []
  | fuel + 1, c :: rest =>
    match reference? (c :: rest) with
    | some (name, fallback, after) =>
      let value : Text := match lookup name with
        | some (some v) => v
        | some none => []
        | none => fallback
      value ++ resolveWith lookup fuel after
    | none => c :: resolveWith lookup fuel rest

/-- The variables with one more, in the place that its name has already. -/
def assign (vars : List (Text × Option Text)) (name : Text) (value : Option Text) :
    List (Text × Option Text) :=
  if vars.any (·.1 = name) then vars.map fun v => if v.1 = name then (name, value) else v
  else vars ++ [(name, value)]

/-- The variables that a file sets. A value may refer to those set before it and to those of
the environment. -/
def assignments (environment : List (Text × Text)) (file : Text) : List (Text × Option Text) :=
  (bindings file).foldl (fun vars b =>
    let lookup (name : Text) : Option (Option Text) :=
      match vars.lookup name with
      | some v => some v
      | none => (environment.lookup name).map some
    assign vars b.1 (b.2.map fun v => resolveWith lookup (v.length + 1) v)) []

end ContractBuild.EnvFile
