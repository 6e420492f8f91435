import ContractBuild.Number.Binary64
import ContractBuild.Text.Blank

/-!
# Reading floating-point numerals

The grammar of a number in a configuration: a sign, digits with an optional point, and an
optional exponent, or a name for infinity or no number. Blanks around it are passed over, and
single underscores between its characters too.
-/

set_option autoImplicit false

namespace ContractBuild.Numeral

/-- An ASCII digit; numerals in configurations know no other. -/
def isAsciiDigit (c : Char) : Bool :=
  c.isDigit

/-- The number written by ASCII digits. -/
def asciiValue (t : Text) : Nat :=
  t.foldl (fun n c => 10 * n + (c.toNat - '0'.toNat)) 0

/-- A leading sign, and what follows it. -/
def takeSign : Text → Bool × Text
  | '-' :: rest => (true, rest)
  | '+' :: rest => (false, rest)
  | t => (false, t)

/-- A leading run of digits, and what follows it. -/
def takeDigits (t : Text) : Text × Text :=
  t.span isAsciiDigit

/-- An exponent that makes up the whole text; the empty text is the exponent zero. -/
def exponent? : Text → Option Int
  | [] => some 0
  | c :: rest =>
    if c = 'e' ∨ c = 'E' then
      let s := takeSign rest
      let d := takeDigits s.2
      if d.1.isEmpty ∨ ¬ d.2.isEmpty then none
      else some (if s.1 then -(asciiValue d.1 : Int) else asciiValue d.1)
    else none

/-- An unsigned decimal numeral. -/
def magnitude? (negative : Bool) (t : Text) : Option Binary64 :=
  let whole := takeDigits t
  let fraction := match whole.2 with
    | '.' :: rest => takeDigits rest
    | rest => ([], rest)
  if whole.1.isEmpty ∧ fraction.1.isEmpty then none
  else (exponent? fraction.2).map fun e =>
    Binary64.ofDecimal negative (asciiValue (whole.1 ++ fraction.1)) (e - fraction.1.length)

/-- A numeral without blanks around it. -/
def unpadded? (t : Text) : Option Binary64 :=
  let s := takeSign t
  let name := s.2.map Char.toLower
  if name = "inf" ∨ name = "infinity" then some (.infinite s.1)
  else if name = "nan" then some .notANumber
  else magnitude? s.1 s.2

/-- The blanks that may stand around a numeral: white space proper, without the information
separators. -/
def isPadding (c : Char) : Bool :=
  Text.isBlank c && !(0x1C ≤ c.toNat && c.toNat ≤ 0x1F)

/-- The text without its underscores, if none of them is at an end or beside another. -/
def withoutUnderscores? (t : Text) : Option Text :=
  if t.head? = some '_' ∨ t.getLast? = some '_' ∨ Text.contains "__" t ∨ '_' ∉ t then none
  else some (t.filter (· ≠ '_'))

/-- The number that a configuration value writes. -/
def read? (t : Text) : Option Binary64 :=
  match unpadded? (Text.trim isPadding t) with
  | some x => some x
  | none => (withoutUnderscores? t).bind fun u => unpadded? (Text.trim isPadding u)

end ContractBuild.Numeral
