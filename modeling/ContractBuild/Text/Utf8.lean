import ContractBuild.Text.Numeral

/-!
# UTF-8

Text as bytes and bytes as text. A sequence that is no character is cut at its maximal
invalid part: the leading byte with those continuation bytes that could still have followed
it. One way of reading replaces each such part by U+FFFD, the other one stops at the first.
-/

set_option autoImplicit false

namespace ContractBuild

/-- A sequence of bytes. -/
abbrev Bytes := List UInt8

namespace Text

/-! ## Writing -/

/-- The bytes of one character. -/
def encodeChar (c : Char) : Bytes :=
  let n := c.toNat
  let sixBits (unit : Nat) : UInt8 := UInt8.ofNat (0x80 + n / unit % 0x40)
  if n < 0x80 then [UInt8.ofNat n]
  else if n < 0x800 then [UInt8.ofNat (0xC0 + n / 0x40), sixBits 1]
  else if n < 0x10000 then [UInt8.ofNat (0xE0 + n / 0x1000), sixBits 0x40, sixBits 1]
  else [UInt8.ofNat (0xF0 + n / 0x40000), sixBits 0x1000, sixBits 0x40, sixBits 1]

/-- The bytes of a text. -/
def encode (t : Text) : Bytes :=
  t.flatMap encodeChar

theorem encodeChar_ne_nil (c : Char) : encodeChar c ≠ [] := by
  unfold encodeChar
  grind

theorem encode_ne_nil {t : Text} (h : t ≠ []) : encode t ≠ [] := by
  cases t with
  | nil => exact absurd rfl h
  | cons c rest => simp [encode, encodeChar_ne_nil]

/-! ## Reading -/

/-- Why a sequence of bytes is no character. -/
inductive Utf8Fault
  | startByte
  | continuation
  | unexpectedEnd
  deriving DecidableEq, Repr

/-- What stands at the front of a sequence of bytes: a character or an invalid part, either
with the number of its bytes. -/
inductive Utf8Head
  | char (c : Char) (size : Nat)
  | invalid (fault : Utf8Fault) (size : Nat)
  deriving DecidableEq, Repr

/-- The first byte after the leading one may be limited to part of the continuation range, so
that no character is written too long, none is a surrogate, and none exceeds U+10FFFF. -/
def secondByteRange (lead : Nat) : Nat × Nat :=
  if lead = 0xE0 then (0xA0, 0xBF)
  else if lead = 0xED then (0x80, 0x9F)
  else if lead = 0xF0 then (0x90, 0xBF)
  else if lead = 0xF4 then (0x80, 0x8F)
  else (0x80, 0xBF)

/-- Reads `missing` further bytes of a character of which `size` bytes with value `value` are
read; the next byte has to lie in `range`, later ones in the whole continuation range. -/
def continueChar (value size : Nat) (range : Nat × Nat) : Nat → Bytes → Utf8Head
  | 0, _ => .char (Char.ofNat value) size
  | _ + 1, [] => .invalid .unexpectedEnd size
  | missing + 1, b :: rest =>
    if range.1 ≤ b.toNat ∧ b.toNat ≤ range.2 then
      continueChar (value * 64 + b.toNat % 64) (size + 1) (0x80, 0xBF) missing rest
    else .invalid .continuation size

/-- What stands at the front of `lead :: rest`. -/
def utf8Head (lead : UInt8) (rest : Bytes) : Utf8Head :=
  let n := lead.toNat
  if n < 0x80 then .char (Char.ofNat n) 1
  else if n < 0xC2 then .invalid .startByte 1
  else if n < 0xE0 then continueChar (n - 0xC0) 1 (secondByteRange n) 1 rest
  else if n < 0xF0 then continueChar (n - 0xE0) 1 (secondByteRange n) 2 rest
  else if n < 0xF5 then continueChar (n - 0xF0) 1 (secondByteRange n) 3 rest
  else .invalid .startByte 1

/-- The bytes that a head takes up; never none. -/
def Utf8Head.size : Utf8Head → Nat
  | .char _ n => n
  | .invalid _ n => n

/-- A part of the input that is no UTF-8: where it starts, how long it is, and its bytes. -/
structure InvalidUtf8 where
  position : Nat
  part : Bytes
  fault : Utf8Fault
  deriving DecidableEq, Repr

/-- The heads of a sequence of bytes one after the other, with their bytes and positions.
`fuel` bounds the number of heads; the number of bytes is always enough. -/
def headsFrom (position : Nat) : Nat → Bytes → List (Nat × Bytes × Utf8Head)
  | 0, _ => []
  | _, [] => []
  | fuel + 1, b :: rest =>
    let head := utf8Head b rest
    let size := max 1 head.size
    (position, (b :: rest).take size, head) ::
      headsFrom (position + size) fuel ((b :: rest).drop size)

/-- The heads of a sequence of bytes. -/
def utf8Heads (bytes : Bytes) : List (Nat × Bytes × Utf8Head) :=
  headsFrom 0 bytes.length bytes

/-- The text of a sequence of bytes, with U+FFFD for each invalid part. -/
def decodeLossy (bytes : Bytes) : Text :=
  (utf8Heads bytes).map fun h => match h.2.2 with
    | .char c _ => c
    | .invalid _ _ => '\ufffd'

theorem headsFrom_ascii {t : Text} (ht : ∀ c ∈ t, c.toNat < 0x80) (position : Nat) :
    (headsFrom position (encode t).length (encode t)).map (fun h => match h.2.2 with
      | .char c _ => c
      | .invalid _ _ => '\ufffd') = t := by
  induction t generalizing position with
  | nil => rfl
  | cons c rest ih =>
    have hc : c.toNat < 0x80 := ht c List.mem_cons_self
    have hbyte : encodeChar c = [UInt8.ofNat c.toNat] := by simp [encodeChar, hc]
    have hencode : encode (c :: rest) = UInt8.ofNat c.toNat :: encode rest := by
      simp [encode, hbyte]
    have hn : (UInt8.ofNat c.toNat).toNat = c.toNat := by
      simp only [UInt8.toNat_ofNat']
      omega
    have hhead : utf8Head (UInt8.ofNat c.toNat) (encode rest) = .char c 1 := by
      simp [utf8Head, hn, hc]
    rw [hencode, List.length_cons, headsFrom, hhead]
    simp [Utf8Head.size, ih fun d hd => ht d (List.mem_cons_of_mem _ hd)]

/-- ASCII characters are read as they are written. -/
theorem decodeLossy_encode_of_ascii {t : Text} (ht : ∀ c ∈ t, c.toNat < 0x80) :
    decodeLossy (encode t) = t :=
  headsFrom_ascii ht 0

/-- The text of a sequence of bytes, or its first invalid part. -/
def decode (bytes : Bytes) : Except InvalidUtf8 Text :=
  (utf8Heads bytes).mapM fun h => match h.2.2 with
    | .char c _ => .ok c
    | .invalid fault _ => .error ⟨h.1, h.2.1, fault⟩

/-- The wording of a fault. -/
def Utf8Fault.message : Utf8Fault → Text
  | .startByte => "invalid start byte"
  | .continuation => "invalid continuation byte"
  | .unexpectedEnd => "unexpected end of data"

/-- The wording of an invalid part: one byte is shown, of several only their positions. -/
def InvalidUtf8.message (e : InvalidUtf8) : Text :=
  let place : Text := match e.part with
    | [b] => "byte 0x" ++ hexPadded 2 b.toNat ++ " in position " ++ ofNat e.position
    | part => "bytes in position " ++ ofNat e.position ++ "-" ++
        ofNat (e.position + part.length - 1)
  "'utf-8' codec can't decode " ++ place ++ ": " ++ e.fault.message

/-! ## Base sixteen -/

/-- Two digits of base sixteen for each byte. -/
def hexOfBytes (bytes : Bytes) : Text :=
  bytes.flatMap fun b => [hexDigit (b.toNat / 16), hexDigit (b.toNat % 16)]

/-! ## Newlines -/

/-- The text with every carriage return, alone or before a line feed, turned into a line
feed. -/
def unifyNewlines (t : Text) : Text :=
  (t.foldr (fun c acc =>
    if c = '\r' then (false, if acc.1 then acc.2 else '\n' :: acc.2)
    else (c = '\n', c :: acc.2)) (false, [])).2

example : decodeLossy [0x61, 0xFF, 0x62, 0xC3, 0xE2, 0x82, 0xF0, 0x9F, 0x98] =
    ['a', '\ufffd', 'b', '\ufffd', '\ufffd', '\ufffd'] := by decide

example : encode ['é', '😀'] = [0xC3, 0xA9, 0xF0, 0x9F, 0x98, 0x80] := by decide

example : unifyNewlines ['a', '\r', '\n', 'b', '\r', 'c'] = ['a', '\n', 'b', '\n', 'c'] := by
  decide

end Text

end ContractBuild
