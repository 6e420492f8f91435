import ContractBuild.Build.Report
import ContractBuild.Proofs.Build.Naming

/-!
# What a report says

The fields of the object in which a result is handed to callers. The artifact of a success can be
read back from its digits (`Text.bytesOfHex?_hexOfBytes`); it has a gas profile unless it is only a
placeholder. A failure has errors, no artifact, and a hint how to install the tool only if the tool
is missing.

Main statement: `BuildResult.told_of_report`.
-/

set_option autoImplicit false

namespace ContractBuild

/-! ## Base sixteen -/

namespace Text

/-- The value of a digit of base sixteen, if it is one in small letters. -/
def hexValue? (c : Char) : Option Nat :=
  hexDigits.idxOf? c

/-- The bytes that are written with two digits of base sixteen each. -/
def bytesOfHex? : Text → Option Bytes
  | [] => some []
  | [_] => none
  | high :: low :: rest => do
    let byte := 16 * (← hexValue? high) + (← hexValue? low)
    return UInt8.ofNat byte :: (← bytesOfHex? rest)

theorem hexValue?_hexDigit {n : Nat} (h : n < 16) : hexValue? (hexDigit n) = some n := by
  revert n
  decide

theorem hexDigit_mem_hexDigits {n : Nat} (h : n < 16) : hexDigit n ∈ hexDigits := by
  revert n
  decide

theorem hexOfBytes_cons (b : UInt8) (bytes : Bytes) :
    hexOfBytes (b :: bytes) =
      hexDigit (b.toNat / 16) :: hexDigit (b.toNat % 16) :: hexOfBytes bytes :=
  rfl

theorem length_hexOfBytes (bytes : Bytes) : (hexOfBytes bytes).length = 2 * bytes.length := by
  induction bytes with
  | nil => rfl
  | cons b bytes ih =>
    rw [hexOfBytes_cons, List.length_cons, List.length_cons, List.length_cons, ih]
    omega

/-- Both halves of a byte are digits. -/
theorem halves_lt (b : UInt8) : b.toNat / 16 < 16 ∧ b.toNat % 16 < 16 := by
  have hb := b.toNat_lt
  omega

theorem isHex_hexOfBytes (bytes : Bytes) : ∀ c ∈ hexOfBytes bytes, c ∈ hexDigits := by
  induction bytes with
  | nil => exact List.forall_mem_nil _
  | cons b bytes ih =>
    obtain ⟨hhigh, hlow⟩ := halves_lt b
    rw [hexOfBytes_cons]
    exact List.forall_mem_cons.2 ⟨hexDigit_mem_hexDigits hhigh,
      List.forall_mem_cons.2 ⟨hexDigit_mem_hexDigits hlow, ih⟩⟩

/-- What is written in base sixteen can be read back. -/
theorem bytesOfHex?_hexOfBytes (bytes : Bytes) : bytesOfHex? (hexOfBytes bytes) = some bytes := by
  induction bytes with
  | nil => rfl
  | cons b bytes ih =>
    obtain ⟨hhigh, hlow⟩ := halves_lt b
    have hbyte : UInt8.ofNat (16 * (b.toNat / 16) + b.toNat % 16) = b := by
      rw [Nat.div_add_mod, UInt8.ofNat_toNat]
    rw [hexOfBytes_cons, bytesOfHex?, hexValue?_hexDigit hhigh, hexValue?_hexDigit hlow, ih]
    exact congrArg (fun b => some (b :: bytes)) hbyte

end Text

/-! ## The fields of a report -/

open Json (field?)

/-- The fields that tell of a success: its artifact, and whether that is only a placeholder. -/
structure BuildSuccess.Told (b : BuildSuccess) (fields : List (Text × Json)) : Prop where
  success : field? "success" fields = some (.bool true)
  placeholder : field? "placeholder" fields = some (.bool b.placeholder)
  profile_iff : (field? "gasProfile" fields).isSome = true ↔ b.placeholder = false
  bytecode : ∃ digits, field? "bytecode" fields = some (.text ("0x" ++ digits)) ∧
    digits.length = 2 * b.artifact.length ∧ (∀ c ∈ digits, c ∈ hexDigits) ∧
    Text.bytesOfHex? digits = some b.artifact
  size : field? "wasmSize" fields = some (.int b.artifact.length)

/-- The fields that tell of a failure: its errors and its reason. -/
structure BuildFailure.Told (f : BuildFailure) (fields : List (Text × Json)) : Prop where
  success : field? "success" fields = some (.bool false)
  errors : ∃ e errors, field? "errors" fields = some (.list (e :: errors))
  bytecode : field? "bytecode" fields = none
  reason : ∃ reason, field? "reason" fields = some (.text reason) ∧ reason = f.kind.name ∧
    ((field? "installInstructions" fields).isSome = true ↔ reason = "toolchain_unavailable")

theorem BuildSuccess.told_of_report {b : BuildSuccess} {pricing : Gas.Pricing} {payload : Json}
    (h : b.report (some pricing) = .ok payload) :
    ∃ fields, payload = .object fields ∧ b.Told fields := by
  have hbytecode : ∃ digits, Json.text b.bytecode = .text ("0x" ++ digits) ∧
      digits.length = 2 * b.artifact.length ∧ (∀ c ∈ digits, c ∈ hexDigits) ∧
      Text.bytesOfHex? digits = some b.artifact :=
    ⟨Text.hexOfBytes b.artifact, rfl, Text.length_hexOfBytes _, Text.isHex_hexOfBytes _,
      Text.bytesOfHex?_hexOfBytes _⟩
  obtain ⟨digits, hdigits, hrest⟩ := hbytecode
  rw [report] at h
  split at h
  · rename_i hplaceholder
    cases h
    refine ⟨_, rfl, rfl, rfl, ?_, ⟨digits, congrArg some hdigits, hrest⟩, rfl⟩
    rw [hplaceholder]
    exact iff_of_false Bool.false_ne_true Bool.noConfusion
  · rename_i hplaceholder
    cases hprofile : Gas.profileOfSize pricing b.size with
    | error e =>
      rw [hprofile] at h
      cases h
    | ok profile =>
      rw [hprofile] at h
      cases h
      refine ⟨_, rfl, rfl, rfl, ?_, ⟨digits, congrArg some hdigits, hrest⟩, rfl⟩
      exact iff_of_true rfl (Bool.eq_false_iff.2 hplaceholder)

theorem FailureKind.name_inj {kind kind' : FailureKind} (h : kind.name = kind'.name) :
    kind = kind' := by
  have hname := congrArg ofName? h
  rw [ofName?_name, ofName?_name] at hname
  exact Option.some.inj hname

theorem BuildFailure.told_report (f : BuildFailure) :
    ∃ fields, f.report = .object fields ∧ f.Told fields := by
  obtain ⟨errors, warnings, kind, hne⟩ := f
  obtain ⟨e, more, rfl⟩ := List.exists_cons_of_ne_nil hne
  refine ⟨_, rfl, ?_⟩
  -- the hint is the only field that depends on the kind
  by_cases hkind : kind = .toolchainUnavailable
  · subst hkind
    exact ⟨rfl, ⟨_, _, rfl⟩, rfl, _, rfl, rfl, iff_of_true rfl rfl⟩
  · rw [if_neg hkind]
    have hname : kind.name ≠ FailureKind.toolchainUnavailable.name :=
      fun h => hkind (FailureKind.name_inj h)
    exact ⟨rfl, ⟨_, _, rfl⟩, rfl, _, rfl, rfl, iff_of_false Bool.false_ne_true hname⟩

/-- The object tells of the result. -/
def BuildResult.Told (result : BuildResult) (fields : List (Text × Json)) : Prop :=
  match result with
  | .success b => b.Told fields
  | .failure f => f.Told fields

/-- A report with prices tells of its result. -/
theorem BuildResult.told_of_report {result : BuildResult} {pricing : Gas.Pricing} {payload : Json}
    (h : result.report (some pricing) = .ok payload) :
    ∃ fields, payload = .object fields ∧ result.Told fields := by
  cases result with
  | success b => exact BuildSuccess.told_of_report h
  | failure f =>
    cases h
    exact f.told_report

end ContractBuild
