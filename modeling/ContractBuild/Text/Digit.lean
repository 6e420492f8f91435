import ContractBuild.Text.Class

/-!
# Decimal digits

The decimal digits of every script, and the number that a run of them writes. Each range of
the table holds whole decades, so the value of a digit is its distance from the start of its
range modulo ten.
-/

set_option autoImplicit false

namespace ContractBuild.Text

/-- The ranges of the Unicode class of decimal digits. -/
def digitRanges : List CharRange := rangesOf
  [(0x0030, 0x0039), (0x0660, 0x0669), (0x06F0, 0x06F9), (0x07C0, 0x07C9),
   (0x0966, 0x096F), (0x09E6, 0x09EF), (0x0A66, 0x0A6F), (0x0AE6, 0x0AEF),
   (0x0B66, 0x0B6F), (0x0BE6, 0x0BEF), (0x0C66, 0x0C6F), (0x0CE6, 0x0CEF),
   (0x0D66, 0x0D6F), (0x0DE6, 0x0DEF), (0x0E50, 0x0E59), (0x0ED0, 0x0ED9),
   (0x0F20, 0x0F29), (0x1040, 0x1049), (0x1090, 0x1099), (0x17E0, 0x17E9),
   (0x1810, 0x1819), (0x1946, 0x194F), (0x19D0, 0x19D9), (0x1A80, 0x1A89),
   (0x1A90, 0x1A99), (0x1B50, 0x1B59), (0x1BB0, 0x1BB9), (0x1C40, 0x1C49),
   (0x1C50, 0x1C59), (0xA620, 0xA629), (0xA8D0, 0xA8D9), (0xA900, 0xA909),
   (0xA9D0, 0xA9D9), (0xA9F0, 0xA9F9), (0xAA50, 0xAA59), (0xABF0, 0xABF9),
   (0xFF10, 0xFF19), (0x104A0, 0x104A9), (0x10D30, 0x10D39), (0x11066, 0x1106F),
   (0x110F0, 0x110F9), (0x11136, 0x1113F), (0x111D0, 0x111D9), (0x112F0, 0x112F9),
   (0x11450, 0x11459), (0x114D0, 0x114D9), (0x11650, 0x11659), (0x116C0, 0x116C9),
   (0x11730, 0x11739), (0x118E0, 0x118E9), (0x11950, 0x11959), (0x11C50, 0x11C59),
   (0x11D50, 0x11D59), (0x11DA0, 0x11DA9), (0x16A60, 0x16A69), (0x16AC0, 0x16AC9),
   (0x16B50, 0x16B59), (0x1D7CE, 0x1D7FF), (0x1E140, 0x1E149), (0x1E2F0, 0x1E2F9),
   (0x1E950, 0x1E959), (0x1FBF0, 0x1FBF9)]

/-- Whether `c` is a decimal digit of some script. -/
def isDigit (c : Char) : Bool :=
  inClass digitRanges c

/-- The value of a decimal digit; a character that is none counts as zero. -/
def digitValue (c : Char) : Nat :=
  match digitRanges.find? (·.has c) with
  | some r => (c.toNat - r.first) % 10
  | none => 0

/-- The number that a run of digits writes, the most significant first. -/
def digitsValue (t : Text) : Nat :=
  t.foldl (fun n c => 10 * n + digitValue c) 0

theorem toNat_of_isDigit {c : Char} (h : c.isDigit = true) : 0x30 ≤ c.toNat ∧ c.toNat ≤ 0x39 := by
  simpa [Char.isDigit, UInt32.le_iff_toNat_le] using h

/-- Every digit of the core library is a decimal digit. -/
theorem isDigit_of_isDigit {c : Char} (h : c.isDigit = true) : isDigit c = true :=
  inClass_iff.2 ⟨⟨0x30, 0x39⟩, by simp [digitRanges, rangesOf], toNat_of_isDigit h⟩

theorem digitValue_of_isDigit {c : Char} (h : c.isDigit = true) :
    digitValue c = c.toNat - '0'.toNat := by
  have hc := toNat_of_isDigit h
  have hfind : digitRanges.find? (·.has c) = some ⟨0x30, 0x39⟩ :=
    List.find?_cons_of_pos (by simp [CharRange.has, hc])
  have hzero : '0'.toNat = 0x30 := rfl
  rw [digitValue, hfind, hzero]
  show (c.toNat - 0x30) % 10 = _
  omega

theorem digitValue_lt (c : Char) : digitValue c < 10 := by
  unfold digitValue
  split
  · exact Nat.mod_lt _ (by omega)
  · omega

theorem digitsValue_lt (t : Text) : digitsValue t < Nat.pow 10 t.length := by
  have hfold : ∀ (t : Text) (init : Nat),
      t.foldl (fun n c => 10 * n + digitValue c) init < (init + 1) * 10 ^ t.length := by
    intro t
    induction t with
    | nil => intro init; simp
    | cons c rest ih =>
      intro init
      have hc := digitValue_lt c
      have hle : 10 * init + digitValue c + 1 ≤ (init + 1) * 10 := by omega
      refine Nat.lt_of_lt_of_le (ih _) ?_
      rw [List.length_cons, Nat.pow_succ, Nat.mul_comm (10 ^ _) 10, ← Nat.mul_assoc]
      exact Nat.mul_le_mul_right _ hle
  have hall : digitsValue t < (0 + 1) * 10 ^ t.length := hfold t 0
  rw [Nat.zero_add, Nat.one_mul] at hall
  exact hall

example : digitsValue ['4', '2'] = 42 ∧ digitsValue ['\u0664', '\uff12'] = 42 := by decide

example : digitRanges.all (fun r => (r.last + 1 - r.first) % 10 = 0) = true := by decide

end ContractBuild.Text
