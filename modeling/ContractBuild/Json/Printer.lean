import ContractBuild.Json.Basic
import ContractBuild.Number.Decimal

/-!
# Printing JSON

A value over several lines, each level indented by two blanks more, in printable ASCII only:
every other character is written by escapes of its UTF-16 units.
-/

set_option autoImplicit false

namespace ContractBuild.Json

open Text (hexPadded)

/-- A unit of UTF-16 as an escape. -/
def unitEscape (n : Nat) : Text :=
  '\\' :: 'u' :: hexPadded 4 n

/-- One character of a string. -/
def escapeChar (c : Char) : Text :=
  let n := c.toNat
  if c = '"' ∨ c = '\\' then ['\\', c]
  else if c = '\n' then ['\\', 'n']
  else if c = '\r' then ['\\', 'r']
  else if c = '\t' then ['\\', 't']
  else if c = '\x08' then ['\\', 'b']
  else if c = '\x0c' then ['\\', 'f']
  else if 0x20 ≤ n ∧ n ≤ 0x7E then [c]
  else if n < 0x10000 then unitEscape n
  else unitEscape (0xD800 + (n - 0x10000) / 0x400) ++ unitEscape (0xDC00 + (n - 0x10000) % 0x400)

/-- A string in quotation marks. -/
def string (t : Text) : Text :=
  '"' :: t.flatMap escapeChar ++ ['"']

/-- A line feed and the indentation of a level. -/
def newline (level : Nat) : Text :=
  '\n' :: List.replicate (2 * level) ' '

mutual

/-- The text of a value on a level. -/
def printAt (level : Nat) : Json → Text
  | null => "null"
  | bool true => "true"
  | bool false => "false"
  | int n => Text.ofInt n
  | real x => x.documentText
  | text t => string t
  | list [] => "[]"
  | list (item :: items) =>
    '[' :: newline (level + 1) ++ printAt (level + 1) item ++ printItems (level + 1) items ++
      newline level ++ [']']
  | object [] => "{}"
  | object ((name, value) :: fields) =>
    '{' :: newline (level + 1) ++ string name ++ ':' :: ' ' :: printAt (level + 1) value ++
      printFields (level + 1) fields ++ newline level ++ ['}']

/-- The items of a list after the first one. -/
def printItems (level : Nat) : List Json → Text
  | [] => []
  | item :: items => ',' :: newline level ++ printAt level item ++ printItems level items

/-- The fields of an object after the first one. -/
def printFields (level : Nat) : List (Text × Json) → Text
  | [] => []
  | (name, value) :: fields =>
    ',' :: newline level ++ string name ++ ':' :: ' ' :: printAt level value ++
      printFields level fields

end

/-- The text of a value. -/
def print (v : Json) : Text :=
  printAt 0 v

end ContractBuild.Json
