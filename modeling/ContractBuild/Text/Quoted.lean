import ContractBuild.Text.Numeral
import ContractBuild.Text.Printable

/-!
# Quoted texts

A text between quotation marks, in which every character is shown as it is or by an escape.
The marks are apostrophes, unless the text holds an apostrophe and no double quote.
-/

set_option autoImplicit false

namespace ContractBuild.Text

/-- The quotation mark that needs the fewest escapes. -/
def quotationMark (t : Text) : Char :=
  if '\'' ∈ t ∧ '"' ∉ t then '"' else '\''

/-- One character between two marks `mark`. -/
def quoteChar (mark c : Char) : Text :=
  let n := c.toNat
  if c = mark ∨ c = '\\' then ['\\', c]
  else if c = '\t' then ['\\', 't']
  else if c = '\n' then ['\\', 'n']
  else if c = '\r' then ['\\', 'r']
  else if isPrintable c then [c]
  else if n < 0x100 then '\\' :: 'x' :: hexPadded 2 n
  else if n < 0x10000 then '\\' :: 'u' :: hexPadded 4 n
  else '\\' :: 'U' :: hexPadded 8 n

/-- The text in quotation marks. -/
def quoted (t : Text) : Text :=
  let mark := quotationMark t
  mark :: t.flatMap (quoteChar mark) ++ [mark]

/-- The text in quotation marks, with an escape also for every character outside ASCII. -/
def quotedAscii (t : Text) : Text :=
  (quoted t).flatMap fun c =>
    let n := c.toNat
    if n < 0x80 then [c]
    else if n < 0x100 then '\\' :: 'x' :: hexPadded 2 n
    else if n < 0x10000 then '\\' :: 'u' :: hexPadded 4 n
    else '\\' :: 'U' :: hexPadded 8 n

/-! ## Laws -/

/-- Whether a character is shown as it is between apostrophes because it is a plain one of ASCII. -/
def isUnescaped (c : Char) : Bool :=
  0x20 ≤ c.toNat && c.toNat < 0x7F && c != '\'' && c != '\\'

theorem quoteChar_of_isUnescaped {c : Char} (h : isUnescaped c = true) :
    quoteChar '\'' c = [c] := by
  simp only [isUnescaped, Bool.and_eq_true, decide_eq_true_eq, bne_iff_ne] at h
  obtain ⟨⟨⟨hfirst, hlast⟩, hmark⟩, hslash⟩ := h
  have hcontrol : ∀ d : Char, d.toNat < 0x20 → c ≠ d := by
    rintro d hd rfl
    omega
  rw [quoteChar, if_neg (not_or.2 ⟨hmark, hslash⟩), if_neg (hcontrol '\t' (by decide)),
    if_neg (hcontrol '\n' (by decide)), if_neg (hcontrol '\r' (by decide)),
    if_pos (isPrintable_of_ascii hfirst hlast)]

theorem flatMap_quoteChar {t : Text} (h : ∀ c ∈ t, isUnescaped c = true) :
    t.flatMap (quoteChar '\'') = t := by
  induction t with
  | nil => rfl
  | cons c rest ih =>
    obtain ⟨hc, hrest⟩ := List.forall_mem_cons.1 h
    rw [List.flatMap_cons, quoteChar_of_isUnescaped hc, ih hrest]
    rfl

/-- A text of such characters is quoted as it stands. -/
theorem quoted_of_isUnescaped {t : Text} (h : ∀ c ∈ t, isUnescaped c = true) :
    quoted t = '\'' :: t ++ ['\''] := by
  have hmark : quotationMark t = '\'' := if_neg fun hmem => absurd (h _ hmem.1) (by decide)
  rw [quoted, hmark, flatMap_quoteChar h]

end ContractBuild.Text
