import ContractBuild.Text.Class

/-!
# Blanks

The white space characters: those of the Unicode property, and the four information
separators U+001C to U+001F beside them. A zero-width space is none of them.
-/

set_option autoImplicit false

namespace ContractBuild.Text

/-- The ranges of white space. -/
def blankRanges : List CharRange := rangesOf
  [(0x09, 0x0D), (0x1C, 0x20), (0x85, 0x85), (0xA0, 0xA0), (0x1680, 0x1680),
   (0x2000, 0x200A), (0x2028, 0x2029), (0x202F, 0x202F), (0x205F, 0x205F), (0x3000, 0x3000)]

/-- Whether `c` is white space. -/
def isBlank (c : Char) : Bool :=
  inClass blankRanges c

/-- The text without white space at either end. -/
def strip (t : Text) : Text :=
  trim isBlank t

/-- Whether the text holds nothing but white space. -/
def isBlankText (t : Text) : Bool :=
  t.all isBlank

/-- Every white space character of the core library is a blank. -/
theorem isBlank_of_isWhitespace {c : Char} (h : c.isWhitespace = true) : isBlank c = true := by
  simp [Char.isWhitespace] at h
  rcases h with ((rfl | rfl) | rfl) | rfl <;> decide

theorem strip_strip (t : Text) : strip (strip t) = strip t :=
  trim_trim isBlank t

theorem infix_strip (t : Text) : strip t <:+: t :=
  infix_trim isBlank t

theorem strip_subset (t : Text) : strip t ⊆ t :=
  trim_subset isBlank t

example : isBlank '\u00a0' = true ∧ isBlank '\x1f' = true ∧ isBlank '\u200b' = false := by decide

end ContractBuild.Text
