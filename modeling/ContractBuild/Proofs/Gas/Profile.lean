import ContractBuild.Proofs.Gas.Tally
import ContractBuild.Proofs.Number.Rounding
import Mathlib.Data.List.Perm.Basic

/-!
# Profiles as accounts

A profile has one entry for each tally of its stream, with the same figures
(`figures_of_profile`); all that can keep it from being made is an amount of gas beyond the
floating-point format (`profile_returns`). So a profile accounts for its stream: every operation is
counted once and paid once, and the order of the stream is of no account but for the order of the
entries.

Main statement: `profile_isAccount`.
-/

set_option autoImplicit false

namespace ContractBuild.Gas

open Binary64 (ofInt safeBits)

/-! ## What may be refused -/

section Refusals

variable {α β ε : Type}

theorem bind_eq_ok_iff {x : Except ε α} {f : α → Except ε β} {b : β} :
    (x >>= f) = .ok b ↔ ∃ a, x = .ok a ∧ f a = .ok b := by
  cases x with
  | error e =>
    constructor
    · intro h
      cases h
    · rintro ⟨a, h, -⟩
      cases h
  | ok a =>
    constructor
    · intro h
      exact ⟨a, rfl, h⟩
    · rintro ⟨a', h, hb⟩
      cases h
      exact hb

theorem map_eq_ok_iff {x : Except ε α} {f : α → β} {b : β} :
    x.map f = .ok b ↔ ∃ a, x = .ok a ∧ f a = b := by
  cases x with
  | error e => simp [Except.map]
  | ok a => simp [Except.map]

theorem pure_eq_ok_iff {a b : α} : (pure a : Except ε α) = .ok b ↔ a = b := by
  simp [pure, Except.pure]

theorem exists_of_isOk {x : Except ε α} (h : x.isOk = true) : ∃ a, x = .ok a := by
  cases x with
  | error e => cases h
  | ok a => exact ⟨a, rfl⟩

/-- A list is made element by element, and is refused if one of them is. -/
theorem mapM_eq_ok_iff {f : α → Except ε β} {xs : List α} {ys : List β} :
    xs.mapM f = .ok ys ↔ List.Forall₂ (fun x y => f x = .ok y) xs ys := by
  induction xs generalizing ys with
  | nil => rw [List.mapM_nil, pure_eq_ok_iff, List.forall₂_nil_left_iff, eq_comm]
  | cons x xs ih =>
    rw [List.mapM_cons, List.forall₂_cons_left_iff]
    simp only [bind_eq_ok_iff, pure_eq_ok_iff, ih]
    constructor
    · rintro ⟨y, hx, rest, hrest, rfl⟩
      exact ⟨y, rest, hx, hrest, rfl⟩
    · rintro ⟨y, rest, hx, hrest, rfl⟩
      exact ⟨y, hx, rest, hrest, rfl⟩

theorem exists_forall₂ {R : α → β → Prop} {xs : List α} (h : ∀ x ∈ xs, ∃ y, R x y) :
    ∃ ys, List.Forall₂ R xs ys := by
  induction xs with
  | nil => exact ⟨[], .nil⟩
  | cons x xs ih =>
    obtain ⟨y, hy⟩ := h x List.mem_cons_self
    obtain ⟨ys, hys⟩ := ih fun z hz => h z (List.mem_cons_of_mem x hz)
    exact ⟨y :: ys, .cons hy hys⟩

end Refusals

/-! ## Entries -/

/-- What an entry tells of its opcode, but for its share. -/
def OperationCost.figures (op : OperationCost) : Text × Text × Int × Int :=
  (op.opcode, op.name, op.gas, op.count)

/-- What the entry of a tally tells. -/
def Tally.figures (t : Tally) : Text × Text × Int × Int :=
  (t.opcode, operationName t.opcode, t.gas, t.count)

theorem Tally.figures_of_operation {t : Tally} {total : Int} {op : OperationCost}
    (h : t.operation total = .ok op) : op.figures = t.figures := by
  obtain ⟨share, -, rfl⟩ := map_eq_ok_iff.1 h
  rfl

/-- The gas of a category does not depend on the order of the entries. -/
theorem perm_categoryGas {ops ops' : List OperationCost} (h : ops'.Perm ops)
    (category : OperationCategory) : categoryGas ops' category = categoryGas ops category := by
  rw [categoryGas, categoryGas, gasSum_eq_sum, gasSum_eq_sum]
  exact ((h.filter _).map _).sum_eq

/-! ## Suggestions -/

/-- The suggestions before the general one, once it is known whether storage and calls take too
much. -/
def adviceBefore (ops : List OperationCost) (total : Int) (storage calls : Bool) : List Text :=
  (if storage then [storageAdvice] else []) ++
    ((mostFrequent? (ops.filter (repetitionLimit < ·.count))).map repetitionAdvice).toList ++
    (if calls then [callAdvice] else []) ++
    (if gasCeiling < total then [ceilingAdvice] else []) ++
    (if ops.any fun op => Text.contains "div" op.opcode then [divisionAdvice] else [])

theorem suggest_eq_ok_iff {ops : List OperationCost} {total : Int} {texts : List Text} :
    suggest ops total = .ok texts ↔ ∃ storage calls,
      exceedsShare (categoryGas ops .storage) total 1 2 = .ok storage ∧
        exceedsShare (categoryGas ops .call) total 3 10 = .ok calls ∧
        texts = adviceBefore ops total storage calls ++ [generalAdvice] := by
  simp only [suggest, bind_eq_ok_iff, pure_eq_ok_iff]
  constructor
  · rintro ⟨storage, hstorage, calls, hcalls, rfl⟩
    exact ⟨storage, calls, hstorage, hcalls, rfl⟩
  · rintro ⟨storage, calls, hstorage, hcalls, rfl⟩
    exact ⟨storage, hstorage, calls, hcalls, rfl⟩

/-! ## Profiles -/

variable {pricing : Pricing} {table : CostTable} {stream : List Text} {p : Profile}

theorem profile_eq_ok_iff :
    profile pricing table stream = .ok p ↔
      p.total = totalGas (tallies table stream) ∧
        List.Forall₂ (fun t op => t.operation p.total = .ok op) (tallies table stream)
          p.operations ∧
        pricing.cost p.total = .ok p.cost ∧ suggest p.operations p.total = .ok p.suggestions := by
  simp only [profile, bind_eq_ok_iff, pure_eq_ok_iff, mapM_eq_ok_iff]
  constructor
  · rintro ⟨ops, hops, cost, hcost, texts, hsuggest, rfl⟩
    exact ⟨rfl, hops, hcost, hsuggest⟩
  · obtain ⟨total, ops, cost, texts⟩ := p
    rintro ⟨rfl, hops, hcost, hsuggest⟩
    exact ⟨ops, hops, cost, hcost, texts, hsuggest, rfl⟩

theorem total_of_profile (h : profile pricing table stream = .ok p) :
    p.total = (stream.map table.cost).sum := by
  rw [(profile_eq_ok_iff.1 h).1, totalGas_tallies]

/-- The entries tell what the stream has of each opcode, in the order in which it has them first. -/
theorem figures_of_profile (h : profile pricing table stream = .ok p) :
    p.operations.map (·.figures) =
      stream.eraseDups.map fun opcode => (tallyOf table stream opcode).figures := by
  obtain ⟨-, hops, -, -⟩ := profile_eq_ok_iff.1 h
  have hfigures : ∀ {ts : List Tally} {ops : List OperationCost},
      List.Forall₂ (fun t op => t.operation p.total = .ok op) ts ops →
        ops.map (·.figures) = ts.map (·.figures) := by
    intro ts ops hops
    induction hops with
    | nil => rfl
    | cons hop _ ih => rw [List.map_cons, List.map_cons, ih, Tally.figures_of_operation hop]
  rw [hfigures hops, tallies_eq, List.map_map]
  rfl

theorem opcodes_of_profile (h : profile pricing table stream = .ok p) :
    p.operations.map (·.opcode) = stream.eraseDups := by
  have hopcodes := congrArg (List.map (·.1)) (figures_of_profile h)
  rw [List.map_map, List.map_map] at hopcodes
  exact hopcodes.trans (List.map_id' _)

/-- There is an entry for each opcode of the stream, and for no other. -/
theorem mem_opcodes_iff (h : profile pricing table stream = .ok p) {opcode : Text} :
    opcode ∈ p.operations.map (·.opcode) ↔ opcode ∈ stream := by
  rw [opcodes_of_profile h, List.mem_eraseDups]

/-- An entry is that of an opcode of the stream. -/
theorem figures_of_mem (h : profile pricing table stream = .ok p) {op : OperationCost}
    (hop : op ∈ p.operations) :
    op.opcode ∈ stream ∧ op.figures = (tallyOf table stream op.opcode).figures := by
  have hmem : op.figures ∈ p.operations.map (·.figures) := List.mem_map_of_mem hop
  rw [figures_of_profile h] at hmem
  obtain ⟨opcode, hopcode, heq⟩ := List.mem_map.1 hmem
  obtain rfl : opcode = op.opcode := congrArg (·.1) heq
  exact ⟨List.mem_eraseDups.1 hopcode, heq.symm⟩

/-! ## When there is a profile -/

theorem exceedsShare_returns {total : Int} (h : total.natAbs ≤ Nat.pow 2 safeBits) (gas : Int)
    (numerator denominator : Nat) : ∃ b, exceedsShare gas total numerator denominator = .ok b := by
  obtain ⟨x, hx⟩ := Binary64.ofInt_ok h
  exact ⟨_, by rw [exceedsShare, Binary64.intMul, hx]; rfl⟩

theorem cost_returns {total : Int} (h : total.natAbs ≤ Nat.pow 2 safeBits) (pricing : Pricing) :
    ∃ cost, pricing.cost total = .ok cost := by
  obtain ⟨x, hx⟩ := Binary64.ofInt_ok h
  exact ⟨_, by rw [Pricing.cost, Binary64.intMul, hx]; rfl⟩

theorem operation_returns {t : Tally} (h : t.gas.natAbs ≤ Nat.pow 2 safeBits) (total : Int) :
    ∃ op, t.operation total = .ok op := by
  rw [Tally.operation, percentage]
  split
  · exact ⟨_, rfl⟩
  · obtain ⟨x, hx⟩ := Binary64.quotient_ok (b := total) h
    exact ⟨_, by rw [hx]; rfl⟩

/-- Amounts of gas far from the end of the floating-point format have a profile. -/
theorem profile_returns (pricing : Pricing)
    (hgas : ∀ t ∈ tallies table stream, t.gas.natAbs ≤ Nat.pow 2 safeBits)
    (htotal : (totalGas (tallies table stream)).natAbs ≤ Nat.pow 2 safeBits) :
    ∃ p, profile pricing table stream = .ok p := by
  obtain ⟨ops, hops⟩ := exists_forall₂ fun t ht =>
    operation_returns (hgas t ht) (totalGas (tallies table stream))
  obtain ⟨cost, hcost⟩ := cost_returns htotal pricing
  obtain ⟨storage, hstorage⟩ := exceedsShare_returns htotal (categoryGas ops .storage) 1 2
  obtain ⟨calls, hcalls⟩ := exceedsShare_returns htotal (categoryGas ops .call) 3 10
  have hsuggest := suggest_eq_ok_iff.2 ⟨storage, calls, hstorage, hcalls, rfl⟩
  exact ⟨⟨_, ops, cost, adviceBefore ops _ storage calls ++ [generalAdvice]⟩,
    profile_eq_ok_iff.2 ⟨rfl, hops, hcost, hsuggest⟩⟩

theorem natAbs_sum_le {bound : Nat} {amounts : List Int} (h : ∀ a ∈ amounts, a.natAbs ≤ bound) :
    amounts.sum.natAbs ≤ amounts.length * bound := by
  induction amounts with
  | nil => exact Nat.zero_le _
  | cons a rest ih =>
    have hfirst := h a List.mem_cons_self
    have hrest := ih fun b hb => h b (List.mem_cons_of_mem a hb)
    rw [List.sum_cons, List.length_cons, Nat.add_mul, Nat.one_mul]
    omega

/-- A stream whose operations cost so little that all of them together stay far from the end of the
floating-point format has a profile. -/
theorem profile_returns_of_bounded (pricing : Pricing) {bound : Nat}
    (hcost : ∀ opcode, (table.cost opcode).natAbs ≤ bound)
    (hbound : stream.length * bound ≤ Nat.pow 2 safeBits) :
    ∃ p, profile pricing table stream = .ok p := by
  apply profile_returns pricing
  · intro t ht
    rw [tallies_eq] at ht
    obtain ⟨opcode, -, rfl⟩ := List.mem_map.1 ht
    rw [tallyOf, Int.natAbs_mul, Int.natAbs_natCast]
    exact Nat.le_trans (Nat.mul_le_mul List.count_le_length (hcost opcode)) hbound
  · rw [totalGas_tallies]
    have hcosts : ∀ a ∈ stream.map table.cost, a.natAbs ≤ bound := by
      intro a ha
      obtain ⟨opcode, -, rfl⟩ := List.mem_map.1 ha
      exact hcost opcode
    have hsum := natAbs_sum_le hcosts
    rw [List.length_map] at hsum
    exact Nat.le_trans hsum hbound

/-! ## Accounts -/

/-- The profile accounts for each operation of the stream. -/
structure Profile.IsAccount (table : CostTable) (stream : List Text) (p : Profile) : Prop where
  /-- There is an entry for each opcode of the stream, and for no other. -/
  complete : ∀ opcode, opcode ∈ p.operations.map (·.opcode) ↔ opcode ∈ stream
  /-- No opcode has two entries. -/
  nodup : (p.operations.map (·.opcode)).Nodup
  /-- The entries stand in the order in which the stream has their opcodes first. -/
  ordered : (p.operations.map (·.opcode)).Pairwise fun o o' => stream.idxOf o < stream.idxOf o'
  counted : ∀ op ∈ p.operations, op.count = stream.count op.opcode
  /-- Each occurrence costs what the table says, and 2 if the table says nothing. -/
  priced : ∀ op ∈ p.operations, op.gas = op.count * (table.lookup op.opcode).getD 2
  sum_count : (p.operations.map (·.count)).sum = stream.length
  total_eq_sum_entries : p.total = (p.operations.map (·.gas)).sum
  total_eq_sum_stream : p.total = (stream.map fun opcode => (table.lookup opcode).getD 2).sum

/-- Each profile accounts for its stream, and a stream with the same operations in another order
has a profile with the same total and the same entries in another order. -/
theorem profile_isAccount (h : profile pricing table stream = .ok p) :
    p.IsAccount table stream ∧ ∀ stream', stream'.Perm stream →
      ∃ p', profile pricing table stream' = .ok p' ∧ p'.total = p.total ∧ p'.cost = p.cost ∧
        p'.operations.Perm p.operations := by
  obtain ⟨htotal, hops, hcost, hsuggest⟩ := profile_eq_ok_iff.1 h
  have hopcodes := opcodes_of_profile h
  constructor
  · constructor
    case complete =>
      intro opcode
      exact mem_opcodes_iff h
    case nodup =>
      rw [hopcodes]
      exact nodup_eraseDups stream
    case ordered =>
      rw [hopcodes]
      exact pairwise_idxOf_eraseDups stream
    case counted =>
      intro op hop
      exact congrArg (·.2.2.2) (figures_of_mem h hop).2
    case priced =>
      intro op hop
      have hfigures := (figures_of_mem h hop).2
      have hgas : op.gas = stream.count op.opcode * table.cost op.opcode :=
        congrArg (·.2.2.1) hfigures
      have hcount : op.count = stream.count op.opcode := congrArg (·.2.2.2) hfigures
      rw [hgas, hcount]
      rfl
    case sum_count =>
      have hcounts := congrArg (List.map (·.2.2.2)) (figures_of_profile h)
      rw [List.map_map, List.map_map] at hcounts
      have hsum := sum_count_tallies table stream
      rw [tallies_eq, List.map_map] at hsum
      exact (congrArg List.sum hcounts).trans hsum
    case total_eq_sum_entries =>
      have hgas := congrArg (List.map (·.2.2.1)) (figures_of_profile h)
      rw [List.map_map, List.map_map] at hgas
      rw [htotal, tallies_eq, totalGas, gasSum_eq_sum, List.map_map]
      exact (congrArg List.sum hgas).symm
    case total_eq_sum_stream =>
      exact total_of_profile h
  · intro stream' hperm
    have hts := perm_tallies table hperm
    have htotal' : totalGas (tallies table stream') = p.total := by
      rw [totalGas_tallies, total_of_profile h]
      exact (hperm.map _).sum_eq
    -- the entries of the tallies, in the order of the tallies
    obtain ⟨ops', hops', hpermOps⟩ := List.perm_comp_forall₂ hts hops
    obtain ⟨storage, calls, hstorage, hcalls, -⟩ := suggest_eq_ok_iff.1 hsuggest
    have hsuggest' : suggest ops' p.total =
        .ok (adviceBefore ops' p.total storage calls ++ [generalAdvice]) := by
      rw [suggest_eq_ok_iff]
      refine ⟨storage, calls, ?_, ?_, rfl⟩
      · rw [perm_categoryGas hpermOps]
        exact hstorage
      · rw [perm_categoryGas hpermOps]
        exact hcalls
    exact ⟨⟨p.total, ops', p.cost, _⟩,
      profile_eq_ok_iff.2 ⟨htotal'.symm, hops', hcost, hsuggest'⟩, rfl, rfl, hpermOps⟩

/-- An opcode that the table lacks, between two that it lists: there are two entries, the stream in
another order has them the other way round, and the total is that of both. -/
theorem profile_isAccount_unlisted :
    ∃ p, profile ⟨.literal 1 10, .literal 3500 1⟩ [("call", -7)] ["call", "nop", "call"] = .ok p ∧
      p.IsAccount [("call", -7)] ["call", "nop", "call"] ∧ p.total = -12 ∧
      ∃ p', profile ⟨.literal 1 10, .literal 3500 1⟩ [("call", -7)] ["nop", "call", "call"] =
          .ok p' ∧ p'.total = -12 ∧ p'.operations.Perm p.operations := by
  obtain ⟨p, hp⟩ : ∃ p, profile ⟨.literal 1 10, .literal 3500 1⟩ [("call", -7)]
      ["call", "nop", "call"] = .ok p :=
    exists_of_isOk (by decide +kernel)
  obtain ⟨haccount, hreorder⟩ := profile_isAccount hp
  have htotal : p.total = -12 := haccount.total_eq_sum_stream.trans (by decide)
  obtain ⟨p', hp', htotal', -, hperm⟩ := hreorder ["nop", "call", "call"] (by decide)
  exact ⟨p, hp, haccount, htotal, p', hp', htotal'.trans htotal, hperm⟩

end ContractBuild.Gas
