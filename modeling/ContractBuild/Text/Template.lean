import ContractBuild.Text.Digit
import ContractBuild.Text.Quoted

/-!
# Templates

A template is a text with fields in braces, where a doubled brace stands for itself. The only
field that has a value is `name`; it may be shown in quotation marks, padded, cut, or reduced
to one of its characters.

Main statement: a text without braces is its own expansion.
-/

set_option autoImplicit false

namespace ContractBuild

/-- Why a template has no expansion. -/
inductive TemplateFault
  | loneOpening
  | loneClosing
  | openingInField
  | fieldWithoutEnd
  | layoutWithoutEnd
  | conversionWithoutEnd
  | afterConversion
  | unknownConversion (c : Char)
  | unknownLayout
  | unknownField (key : Text)
  | noPosition (n : Nat)
  | indexOutOfRange
  | notAnIndex
  | noAttribute
  deriving DecidableEq, Repr

/-- The wording of a fault. -/
def TemplateFault.message : TemplateFault → Text
  | loneOpening => "Single '\x7b' encountered in format string"
  | loneClosing => "Single '\x7d' encountered in format string"
  | openingInField => "unexpected '\x7b' in field name"
  | fieldWithoutEnd => "expected '\x7d' before end of string"
  | layoutWithoutEnd => "unmatched '\x7b' in format spec"
  | conversionWithoutEnd => "end of string while looking for conversion specifier"
  | afterConversion => "expected ':' after conversion specifier"
  | unknownConversion c => "Unknown conversion specifier " ++ [c]
  | unknownLayout => "Invalid format specifier"
  | unknownField key => Text.quoted key
  | noPosition n =>
    "Replacement index " ++ Text.ofNat n ++ " out of range for positional args tuple"
  | indexOutOfRange => "string index out of range"
  | notAnIndex => "string indices must be integers"
  | noAttribute => "no such attribute"

namespace Template

/-! ## Fields -/

/-- A field as it is written: what it names, how it is converted, and how it is laid out. -/
structure Field where
  key : Text
  conversion : Option Char := none
  layout : Text := []
  deriving DecidableEq, Repr

/-- The name of a field, up to the character that ends it, and the rest after that
character. Brackets in a name may hold any character but a closing bracket. -/
def takeKey : Text → Bool → Except TemplateFault (Text × Char × Text)
  | [], _ => .error .fieldWithoutEnd
  | c :: rest, true => (takeKey rest (c ≠ ']')).map fun r => (c :: r.1, r.2)
  | c :: rest, false =>
    if c = '\x7b' then .error .openingInField
    else if c = '\x7d' ∨ c = ':' ∨ c = '!' then .ok ([], c, rest)
    else (takeKey rest (c = '[')).map fun r => (c :: r.1, r.2)

/-- The layout of a field, up to the brace that ends the field; `depth` braces are open. -/
def takeLayout : Text → Nat → Except TemplateFault (Text × Text)
  | [], _ => .error .layoutWithoutEnd
  | c :: rest, depth =>
    if c = '\x7d' then
      match depth with
      | 0 => .ok ([], rest)
      | depth + 1 => (takeLayout rest depth).map fun r => (c :: r.1, r.2)
    else
      (takeLayout rest (if c = '\x7b' then depth + 1 else depth)).map fun r => (c :: r.1, r.2)

/-- The field behind an opening brace, and what follows the field. -/
def takeField (t : Text) : Except TemplateFault (Field × Text) := do
  let (key, ending, rest) ← takeKey t false
  if ending = '\x7d' then return ({ key }, rest)
  else if ending = ':' then
    let (layout, rest) ← takeLayout rest 0
    return ({ key, layout }, rest)
  else match rest with
    | [] => throw .conversionWithoutEnd
    | [_] => throw .layoutWithoutEnd
    | c :: d :: rest =>
      if d = '\x7d' then return ({ key, conversion := some c }, rest)
      else if d = ':' then
        let (layout, rest) ← takeLayout rest 0
        return ({ key, conversion := some c, layout }, rest)
      else throw .afterConversion

/-! ## Values -/

/-- The part of a name that an index in brackets or an attribute selects. -/
def select (name : Text) : Text → Except TemplateFault Text
  | [] => .ok name
  | '[' :: rest =>
    let index := rest.takeWhile (· ≠ ']')
    if index.isEmpty || !index.all Char.isDigit then .error .notAnIndex
    else match name[Text.digitsValue index]? with
      | some c => if (rest.drop (index.length + 1)).isEmpty then .ok [c] else .error .noAttribute
      | none => .error .indexOutOfRange
  | _ => .error .noAttribute

/-- The value of a key. -/
def value (name key : Text) : Except TemplateFault Text :=
  let first := key.takeWhile fun c => c ≠ '.' ∧ c ≠ '['
  if first.isEmpty then .error (.noPosition 0)
  else if first.all Char.isDigit then .error (.noPosition (Text.digitsValue first))
  else if first = ("name" : Text) then select name (key.drop first.length)
  else .error (.unknownField first)

/-- A value after a conversion: as it is, in quotation marks, or in quotation marks and
ASCII. -/
def convert (v : Text) : Option Char → Except TemplateFault Text
  | none => .ok v
  | some 's' => .ok v
  | some 'r' => .ok (Text.quoted v)
  | some 'a' => .ok (Text.quotedAscii v)
  | some c => .error (.unknownConversion c)

/-! ## Layout -/

/-- Where a value stands in a wider space. -/
def alignments : List Char := ['<', '>', '^']

/-- The fill character and the alignment that a layout begins with. -/
def alignment : Text → Option Char × Option Char × Text
  | f :: a :: rest =>
    if a ∈ alignments then (some f, some a, rest)
    else if f ∈ alignments then (none, some f, a :: rest)
    else (none, none, f :: a :: rest)
  | [a] => if a ∈ alignments then (none, some a, []) else (none, none, [a])
  | [] => (none, none, [])

/-- The value in a space of `width` characters. -/
def pad (fill align : Char) (width : Nat) (v : Text) : Text :=
  let free := width - v.length
  let before := if align = '>' then free else if align = '^' then free / 2 else 0
  List.replicate before fill ++ v ++ List.replicate (free - before) fill

/-- The value in a layout: fill and alignment, the least width, and the most characters. -/
def layOut (v layout : Text) : Except TemplateFault Text := do
  let (fill, align, rest) := alignment layout
  let zero : Bool := rest.head? = some '0'
  let width := rest.takeWhile Char.isDigit
  let rest := rest.dropWhile Char.isDigit
  let (limit, rest) ← match rest with
    | '.' :: r =>
      let digits := r.takeWhile Char.isDigit
      if digits.isEmpty then throw .unknownLayout
      else pure (some (Text.digitsValue digits), r.dropWhile Char.isDigit)
    | r => pure (none, r)
  if rest = [] ∨ rest = ['s'] then
    let cut := match limit with
      | some n => v.take n
      | none => v
    return pad (fill.getD (if zero then '0' else ' ')) (align.getD '<') (Text.digitsValue width) cut
  else throw .unknownLayout

/-! ## Expansion -/

/-- The expansion of a template whose `name` is given. A layout is a template itself, so
`depth` says how deep layouts may be nested; `fuel` bounds the characters that are read. -/
def expandWith (name : Text) : Nat → Nat → Text → Except TemplateFault Text
  | _, _, [] => .ok []
  | _, 0, _ => .ok []
  | depth, fuel + 1, c :: rest =>
    if c = '\x7b' then
      match rest with
      | [] => .error .loneOpening
      | d :: tail =>
        if d = '\x7b' then (expandWith name depth fuel tail).map ('\x7b' :: ·)
        else do
          let (field, tail) ← takeField rest
          let v ← convert (← value name field.key) field.conversion
          let layout ← match depth with
            | 0 => .error .unknownLayout
            | depth + 1 => expandWith name depth fuel field.layout
          let shown ← layOut v layout
          let more ← expandWith name depth fuel tail
          return shown ++ more
    else if c = '\x7d' then
      match rest with
      | '\x7d' :: tail => (expandWith name depth fuel tail).map ('\x7d' :: ·)
      | _ => .error .loneClosing
    else (expandWith name depth fuel rest).map (c :: ·)

/-- The expansion of a template. -/
def expand (template name : Text) : Except TemplateFault Text :=
  expandWith name 2 template.length template

/-- A character that is no brace stands for itself. -/
theorem expandWith_cons {c : Char} (hc : ¬ (c = '\x7b' ∨ c = '\x7d')) (name : Text)
    (depth fuel : Nat) (rest : Text) :
    expandWith name depth (fuel + 1) (c :: rest) =
      (expandWith name depth fuel rest).map (c :: ·) :=
  (if_neg (not_or.1 hc).1).trans (if_neg (not_or.1 hc).2)

/-- Two braces stand for one. -/
theorem expandWith_brace {c : Char} (hc : c = '\x7b' ∨ c = '\x7d') (name : Text)
    (depth fuel : Nat) (rest : Text) :
    expandWith name depth (fuel + 1) (c :: c :: rest) =
      (expandWith name depth fuel rest).map (c :: ·) := by
  rcases hc with rfl | rfl <;> rfl

theorem expandWith_plain (name : Text) (depth fuel : Nat) (t : Text) (h : t.length ≤ fuel)
    (hp : ∀ c ∈ t, c ≠ '\x7b' ∧ c ≠ '\x7d') : expandWith name depth fuel t = .ok t := by
  induction t generalizing fuel with
  | nil => cases fuel <;> rfl
  | cons c rest ih =>
    obtain ⟨n, rfl⟩ : ∃ n, fuel = n + 1 := ⟨fuel - 1, by simp at h; omega⟩
    have hc := hp c (by simp)
    have hr := ih n (by simpa using h) fun d hd => hp d (by simp [hd])
    rw [expandWith_cons (not_or.2 hc), hr]
    rfl

/-- A template without braces is its own expansion. -/
theorem expand_plain (t name : Text) (hp : ∀ c ∈ t, c ≠ '\x7b' ∧ c ≠ '\x7d') :
    expand t name = .ok t :=
  expandWith_plain name 2 t.length t (Nat.le_refl _) hp

end Template

end ContractBuild
