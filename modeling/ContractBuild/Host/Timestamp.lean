import ContractBuild.Number.Integer
import ContractBuild.Text.Numeral

/-!
# Local times

A date with a time of day, down to the microsecond, the distance between two of them, and the
forms in which it is written.
-/

set_option autoImplicit false

namespace ContractBuild

/-- A local time. -/
structure Timestamp where
  year : Nat
  month : Nat
  day : Nat
  hour : Nat := 0
  minute : Nat := 0
  second : Nat := 0
  microsecond : Nat := 0
  deriving DecidableEq, Repr

namespace Timestamp

/-! ## Distance -/

/-- The days before the date, counted from a fixed one; a year starts in March here, so that
the leap day is the last one. -/
def dayNumber (t : Timestamp) : Nat :=
  let year := if t.month ≤ 2 then t.year - 1 else t.year
  let month := (t.month + 9) % 12
  365 * year + year / 4 - year / 100 + year / 400 + (153 * month + 2) / 5 + t.day

/-- The microseconds since the start of the day. -/
def microsecondOfDay (t : Timestamp) : Nat :=
  ((t.hour * 60 + t.minute) * 60 + t.second) * 1000000 + t.microsecond

/-- The microseconds from one time to another. -/
def microsecondsTo (start finish : Timestamp) : Int :=
  ((finish.dayNumber : Int) - start.dayNumber) * 86400000000 +
    ((finish.microsecondOfDay : Int) - start.microsecondOfDay)

/-- The seconds from one time to another. -/
def secondsTo (start finish : Timestamp) : Except FloatOverflow Binary64 :=
  Binary64.quotient (start.microsecondsTo finish) 1000000

theorem microsecondsTo_self (t : Timestamp) : t.microsecondsTo t = 0 := by
  simp [microsecondsTo]

/-! ## Writing -/

open Text (padded)

/-- Date and time with separators; the fraction is left out if it is zero. -/
def isoText (t : Timestamp) : Text :=
  padded 4 t.year ++ '-' :: padded 2 t.month ++ '-' :: padded 2 t.day ++ 'T' ::
    padded 2 t.hour ++ ':' :: padded 2 t.minute ++ ':' :: padded 2 t.second ++
    (if t.microsecond = 0 then [] else '.' :: padded 6 t.microsecond)

/-- Date and time for the name of a file. -/
def fileText (t : Timestamp) : Text :=
  padded 4 t.year ++ padded 2 t.month ++ padded 2 t.day ++ '_' ::
    padded 2 t.hour ++ padded 2 t.minute ++ padded 2 t.second

/-- Date and time for a line of a log, with milliseconds. -/
def logText (t : Timestamp) : Text :=
  padded 4 t.year ++ '-' :: padded 2 t.month ++ '-' :: padded 2 t.day ++ ' ' ::
    padded 2 t.hour ++ ':' :: padded 2 t.minute ++ ':' :: padded 2 t.second ++
    ',' :: padded 3 (t.microsecond / 1000)

/-! ## Reading -/

/-- The number that a text of ASCII digits writes. -/
def digits? (t : Text) : Option Nat :=
  if !t.isEmpty && t.all Char.isDigit then some (Text.digitsValue t) else none

/-- The numbers of a text of one, two or three parts between colons; parts that are absent
are zero. -/
def clock? (t : Text) : Option (Nat × Nat × Nat) := do
  match ← (Text.pieces ':' t).mapM digits? with
  | [h] => some (h, 0, 0)
  | [h, m] => some (h, m, 0)
  | [h, m, s] => some (h, m, s)
  | _ => none

/-- The microseconds of a decimal fraction; further digits are cut off. -/
def fraction? (t : Text) : Option Nat :=
  digits? ((t ++ ['0', '0', '0', '0', '0', '0']).take 6)

/-- A time in the form that `isoText` writes. The time of day or parts of it may be missing,
and any character may stand between date and time. -/
def ofIso? (t : Text) : Option Timestamp := do
  match ← (Text.pieces '-' (t.take 10)).mapM digits? with
  | [year, month, day] =>
    if t.length ≤ 10 then some { year, month, day }
    else
      let time := (t.drop 11).span (· ≠ '.')
      let (hour, minute, second) ← clock? time.1
      let microsecond ← fraction? (time.2.drop 1)
      some { year, month, day, hour, minute, second, microsecond }
  | _ => none

example : (ofIso? "2024-01-02T03:04:05").map isoText = some "2024-01-02T03:04:05" := by decide

example : (ofIso? "2024-02-28T23:59:59.5").map (·.microsecondsTo ⟨2024, 3, 1, 0, 0, 0, 0⟩) =
    some 86400500000 := by decide

end Timestamp

end ContractBuild
