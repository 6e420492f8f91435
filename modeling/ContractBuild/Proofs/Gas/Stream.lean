import ContractBuild.Proofs.Gas.Profile
import Mathlib.Algebra.Order.BigOperators.Group.List

/-!
# The stream of an artifact

The stream is made of blocks that go round a few opcodes. An opcode that a round has once comes as
often as there are rounds begun at its place (`count_cycled_of_once`), and from that the stream has
each opcode as often as `usualMix` says (`count_synthesize`) and no other opcode. The stream of a
larger artifact has the operations of that of a smaller one, and more (`synthesize_sublist`).

Main statement: `usualMix_of_profile`.
-/

set_option autoImplicit false

namespace ContractBuild.Gas

open Binary64 (safeBits)

/-! ## Going round -/

section Cycles

variable {cycle : List Text} {opcode : Text}

theorem length_cycled (cycle : List Text) (count : Nat) : (cycled cycle count).length = count :=
  (List.length_map _).trans List.length_range

theorem cycled_of_le {count : Nat} (h : count ≤ cycle.length) :
    cycled cycle count = cycle.take count := by
  apply List.ext_getElem
  · rw [length_cycled, List.length_take_of_le h]
  · intro i hi htake
    rw [length_cycled] at hi
    have hlt : i < cycle.length := Nat.lt_of_lt_of_le hi h
    simp [cycled, Nat.mod_eq_of_lt hlt, hlt]

/-- A full round, and what comes after it. -/
theorem cycled_add (cycle : List Text) (count : Nat) :
    cycled cycle (cycle.length + count) = cycle ++ cycled cycle count := by
  have hround : cycled cycle cycle.length = cycle := by
    rw [cycled_of_le (Nat.le_refl _), List.take_length]
  have hafter : (List.range count).map ((fun i => cycle.getD (i % cycle.length) []) ∘
      (cycle.length + ·)) = cycled cycle count := by
    apply List.map_congr_left
    intro i _
    rw [Function.comp_apply, Nat.add_mod_left]
  rw [cycled, List.range_add, List.map_append, List.map_map, hafter]
  exact congrArg (· ++ cycled cycle count) hround

theorem cycled_subset (hne : cycle ≠ []) (count : Nat) : cycled cycle count ⊆ cycle := by
  intro opcode h
  obtain ⟨i, -, rfl⟩ := List.mem_map.1 h
  have hlt : i % cycle.length < cycle.length := Nat.mod_lt _ (List.length_pos_of_ne_nil hne)
  rw [List.getD_eq_getElem?_getD, List.getElem?_eq_getElem hlt, Option.getD_some]
  exact List.getElem_mem hlt

/-- So often in the full rounds, and so often in the last one. -/
theorem count_cycled (cycle : List Text) (opcode : Text) (rounds : Nat) {rest : Nat}
    (h : rest ≤ cycle.length) :
    (cycled cycle (cycle.length * rounds + rest)).count opcode =
      rounds * cycle.count opcode + (cycle.take rest).count opcode := by
  induction rounds with
  | zero => rw [Nat.mul_zero, Nat.zero_add, cycled_of_le h, Nat.zero_mul, Nat.zero_add]
  | succ rounds ih =>
    have hnext : cycle.length * (rounds + 1) + rest =
        cycle.length + (cycle.length * rounds + rest) := by
      rw [Nat.mul_add, Nat.mul_one]
      omega
    rw [hnext, cycled_add, List.count_append, ih, Nat.add_mul, Nat.one_mul]
    omega

/-- The beginning of a round has an opcode that stands once in it if it gets as far. -/
theorem count_take_of_once (before after : List Text) (hbefore : opcode ∉ before)
    (hafter : opcode ∉ after) {rest : Nat} (h : rest < (before ++ opcode :: after).length) :
    ((before ++ opcode :: after).take rest).count opcode =
      (rest + after.length) / (before ++ opcode :: after).length := by
  have hnotBefore : opcode ∉ before.take rest := fun hmem => hbefore (List.mem_of_mem_take hmem)
  rw [List.length_append, List.length_cons] at h ⊢
  rw [List.take_append, List.count_append, List.count_eq_zero_of_not_mem hnotBefore, Nat.zero_add]
  by_cases hreached : before.length < rest
  · obtain ⟨k, hk⟩ : ∃ k, rest - before.length = k + 1 := ⟨rest - before.length - 1, by omega⟩
    have hnotAfter : opcode ∉ after.take k := fun hmem => hafter (List.mem_of_mem_take hmem)
    rw [hk, List.take_succ_cons, List.count_cons_self, List.count_eq_zero_of_not_mem hnotAfter]
    exact (Nat.div_eq_of_lt_le (by omega) (by omega)).symm
  · rw [Nat.sub_eq_zero_of_le (by omega), List.take_zero, List.count_nil]
    exact (Nat.div_eq_of_lt (by omega)).symm

/-- An opcode that stands once in the round comes once for each round that gets as far as it. -/
theorem count_cycled_of_once (before after : List Text) (hbefore : opcode ∉ before)
    (hafter : opcode ∉ after) (count : Nat) :
    (cycled (before ++ opcode :: after) count).count opcode =
      (count + after.length) / (before ++ opcode :: after).length := by
  have honce : (before ++ opcode :: after).count opcode = 1 := by
    rw [List.count_append, List.count_cons_self, List.count_eq_zero_of_not_mem hbefore,
      List.count_eq_zero_of_not_mem hafter]
  have hpos : 0 < (before ++ opcode :: after).length := by
    rw [List.length_append, List.length_cons]
    omega
  have hlast := count_take_of_once before after hbefore hafter (Nat.mod_lt count hpos)
  generalize before ++ opcode :: after = cycle at *
  have hcut : cycle.length * (count / cycle.length) + count % cycle.length = count :=
    Nat.div_add_mod count cycle.length
  calc (cycled cycle count).count opcode
      = count / cycle.length * 1 + (count % cycle.length + after.length) / cycle.length := by
        conv_lhs => rw [← hcut]
        rw [count_cycled cycle opcode _ (Nat.le_of_lt (Nat.mod_lt count hpos)), honce, hlast]
    _ = (cycle.length * (count / cycle.length) + (count % cycle.length + after.length)) /
          cycle.length := by
        rw [Nat.mul_add_div hpos, Nat.mul_one]
    _ = (count + after.length) / cycle.length := by rw [← Nat.add_assoc, hcut]

theorem cycled_sublist (cycle : List Text) {count count' : Nat} (h : count ≤ count') :
    (cycled cycle count).Sublist (cycled cycle count') := by
  obtain ⟨more, rfl⟩ := Nat.exists_eq_add_of_le h
  rw [cycled, cycled, List.range_add]
  exact (List.sublist_append_left _ _).map _

/-- An opcode that does not stand in the round does not come. -/
theorem count_cycled_of_notMem (hne : cycle ≠ []) (h : opcode ∉ cycle) (count : Nat) :
    (cycled cycle count).count opcode = 0 :=
  List.count_eq_zero_of_not_mem fun hmem => h (cycled_subset hne count hmem)

end Cycles

/-! ## The usual mix -/

/-- How often the stream of an artifact of this size has each opcode. -/
def usualMix (size : Nat) : List (Text × Nat) :=
  [("call", 1 + size / 200),
   ("storage.load", (size / 100 + 1) / 2), ("storage.store", size / 100 / 2),
   ("memory.grow", (size / 50 + 2) / 3), ("memory.copy", size / 50 - (size / 50 + 2) / 3),
   ("i32.add", (size / 20 + 3) / 4), ("i32.mul", (size / 20 + 2) / 4),
   ("i32.eq", (size / 20 + 1) / 4), ("i64.add", size / 20 / 4),
   ("log1", if 500 < size then 1 else 0)]

/-- The blocks of the stream, one behind the other. -/
theorem synthesize_natCast (size : Nat) :
    synthesize size = (["call"] : List Text) ++ cycled ["storage.load", "storage.store"] (size / 100) ++
      cycled ["memory.grow", "memory.copy", "memory.copy"] (size / 50) ++
      cycled ["i32.add", "i32.mul", "i32.eq", "i64.add"] (size / 20) ++
      List.replicate (size / 200) ("call" : Text) ++
      (if eventSizeThreshold < size then (["log1"] : List Text) else []) :=
  rfl

/-- The blocks that go round, and the calls and events beside them. -/
theorem count_blocks (size : Nat) (opcode : Text) :
    (synthesize size).count opcode =
      (cycled ["storage.load", "storage.store"] (size / 100)).count opcode +
        (cycled ["memory.grow", "memory.copy", "memory.copy"] (size / 50)).count opcode +
        (cycled ["i32.add", "i32.mul", "i32.eq", "i64.add"] (size / 20)).count opcode +
        (if opcode = "call" then 1 + size / 200 else 0) +
        (if opcode = "log1" then if 500 < size then 1 else 0 else 0) := by
  have hcalls : (["call"] : List Text).count opcode +
      (List.replicate (size / 200) ("call" : Text)).count opcode =
        if opcode = "call" then 1 + size / 200 else 0 := by
    by_cases h : opcode = "call"
    · subst h
      rw [if_pos rfl, List.count_singleton_self, List.count_replicate_self]
    · have hfirst : opcode ∉ (["call"] : List Text) := fun hmem => h (List.mem_singleton.1 hmem)
      have hothers : opcode ∉ List.replicate (size / 200) ("call" : Text) := fun hmem =>
        h (List.eq_of_mem_replicate hmem)
      rw [if_neg h, List.count_eq_zero_of_not_mem hfirst, List.count_eq_zero_of_not_mem hothers]
  have hevents : (if eventSizeThreshold < size then (["log1"] : List Text) else []).count opcode =
      if opcode = "log1" then if 500 < size then 1 else 0 else 0 := by
    by_cases h : opcode = "log1"
    · subst h
      rw [if_pos rfl, apply_ite (List.count _)]
      rfl
    · rw [if_neg h, List.count_eq_zero]
      intro hmem
      split at hmem
      · exact h (List.mem_singleton.1 hmem)
      · cases hmem
  simp only [synthesize_natCast, List.count_append]
  omega

/-- Of three operations on memory the first one allocates, and the others copy. -/
theorem count_copies (count : Nat) :
    (cycled ["memory.grow", "memory.copy", "memory.copy"] count).count ("memory.copy" : Text) =
      count - (count + 2) / 3 := by
  have hlast : ∀ rest < 3, ((["memory.grow", "memory.copy", "memory.copy"] : List Text).take
      rest).count ("memory.copy" : Text) = rest - (rest + 2) / 3 := by
    decide
  have hrest : count % 3 < 3 := Nat.mod_lt count (by decide)
  have hcut : 3 * (count / 3) + count % 3 = count := Nat.div_add_mod count 3
  have hcount := count_cycled ["memory.grow", "memory.copy", "memory.copy"] "memory.copy"
    (count / 3) (Nat.le_of_lt hrest)
  have hlength : (["memory.grow", "memory.copy", "memory.copy"] : List Text).length = 3 := rfl
  have htwo : (["memory.grow", "memory.copy", "memory.copy"] : List Text).count
      ("memory.copy" : Text) = 2 := by
    decide
  rw [hlast _ hrest, hlength, hcut, htwo] at hcount
  omega

/-- The stream has the opcodes of the mix as often as the mix says. -/
theorem count_synthesize {size : Nat} {e : Text × Nat} (he : e ∈ usualMix size) :
    (synthesize size).count e.1 = e.2 := by
  simp only [usualMix, List.mem_cons, List.not_mem_nil, or_false] at he
  rcases he with rfl | rfl | rfl | rfl | rfl | rfl | rfl | rfl | rfl | rfl
  -- each opcode stands in one block, and the others count nothing
  all_goals
    simp (disch := decide) only [count_blocks, count_cycled_of_notMem, if_pos, if_neg,
      Nat.zero_add, Nat.add_zero]
  · exact count_cycled_of_once [] ["storage.store"] (by decide) (by decide) _
  · exact count_cycled_of_once ["storage.load"] [] (by decide) (by decide) _
  · exact count_cycled_of_once [] ["memory.copy", "memory.copy"] (by decide) (by decide) _
  · exact count_copies _
  · exact count_cycled_of_once [] ["i32.mul", "i32.eq", "i64.add"] (by decide) (by decide) _
  · exact count_cycled_of_once ["i32.add"] ["i32.eq", "i64.add"] (by decide) (by decide) _
  · exact count_cycled_of_once ["i32.add", "i32.mul"] ["i64.add"] (by decide) (by decide) _
  · exact count_cycled_of_once ["i32.add", "i32.mul", "i32.eq"] [] (by decide) (by decide) _

/-- The stream has no other opcodes. -/
theorem synthesize_subset (size : Nat) : synthesize size ⊆ (usualMix size).map (·.1) := by
  show synthesize size ⊆ ["call", "storage.load", "storage.store", "memory.grow", "memory.copy",
    "i32.add", "i32.mul", "i32.eq", "i64.add", "log1"]
  simp only [synthesize_natCast, List.append_subset]
  refine ⟨⟨⟨⟨⟨?_, ?_⟩, ?_⟩, ?_⟩, ?_⟩, ?_⟩
  · decide
  · exact List.Subset.trans (cycled_subset (by decide) _) (by decide)
  · exact List.Subset.trans (cycled_subset (by decide) _) (by decide)
  · exact List.Subset.trans (cycled_subset (by decide) _) (by decide)
  · intro opcode h
    rw [List.eq_of_mem_replicate h]
    decide
  · split <;> decide

theorem length_synthesize_le (size : Nat) : (synthesize size).length ≤ size + 2 := by
  have hevents : (if eventSizeThreshold < size then (["log1"] : List Text) else []).length ≤ 1 := by
    split
    · exact Nat.le_refl 1
    · exact Nat.zero_le 1
  simp only [synthesize_natCast, length_cycled, List.length_append, List.length_replicate,
    List.length_singleton]
  omega

/-- A larger artifact has the operations of a smaller one, and more. -/
theorem synthesize_sublist {size size' : Nat} (h : size ≤ size') :
    (synthesize size).Sublist (synthesize size') := by
  have hevents : (if eventSizeThreshold < size then (["log1"] : List Text) else []).Sublist
      (if eventSizeThreshold < size' then ["log1"] else []) := by
    by_cases hlarge : eventSizeThreshold < size
    · rw [if_pos hlarge, if_pos (Nat.lt_of_lt_of_le hlarge h)]
    · rw [if_neg hlarge]
      exact List.nil_sublist _
  have hcalls : (List.replicate (size / 200) ("call" : Text)).Sublist
      (List.replicate (size' / 200) "call") :=
    (List.replicate_sublist_replicate _).2 (Nat.div_le_div_right h)
  exact (((((List.Sublist.refl _).append (cycled_sublist _ (Nat.div_le_div_right h))).append
    (cycled_sublist _ (Nat.div_le_div_right h))).append
    (cycled_sublist _ (Nat.div_le_div_right h))).append hcalls).append hevents

/-! ## Costs -/

theorem CostTable.cost_cases (table : CostTable) (opcode : Text) :
    table.cost opcode = defaultCost ∨ ∃ e ∈ table, e.2 = table.cost opcode := by
  rw [CostTable.cost]
  cases hlookup : table.lookup opcode with
  | none => exact .inl rfl
  | some cost =>
    obtain ⟨before, after, rfl, -⟩ := List.lookup_eq_some_iff.1 hlookup
    exact .inr ⟨(opcode, cost), List.mem_append_right _ List.mem_cons_self, rfl⟩

theorem CostTable.cost_nonneg {table : CostTable} (h : ∀ e ∈ table, 0 ≤ e.2) (opcode : Text) :
    0 ≤ table.cost opcode := by
  rcases table.cost_cases opcode with hdefault | ⟨e, he, hcost⟩
  · rw [hdefault]
    decide
  · rw [← hcost]
    exact h e he

theorem natAbs_standardCosts_le (opcode : Text) :
    (standardCosts.cost opcode).natAbs ≤ 20000 := by
  have htable : ∀ e ∈ standardCosts, e.2.natAbs ≤ 20000 := by
    decide
  rcases standardCosts.cost_cases opcode with hdefault | ⟨e, he, hcost⟩
  · rw [hdefault]
    decide
  · rw [← hcost]
    exact htable e he

/-! ## Profiles of artifacts -/

/-- What the stream counts is the mix, without the opcodes that an artifact of this size has not. -/
theorem perm_usualMix (size : Nat) :
    ((synthesize size).eraseDups.map fun opcode => (opcode, (synthesize size).count opcode)).Perm
      ((usualMix size).filter fun e => 0 < e.2) := by
  have hmix : (usualMix size).Nodup := by
    have hnames : ((usualMix size).map (·.1)).Nodup := by
      show (["call", "storage.load", "storage.store", "memory.grow", "memory.copy", "i32.add",
        "i32.mul", "i32.eq", "i64.add", "log1"] : List Text).Nodup
      decide
    exact hnames.of_map
  rw [List.perm_ext_iff_of_nodup
    ((nodup_eraseDups _).map fun _ _ h => congrArg Prod.fst h) (hmix.filter _)]
  rintro ⟨opcode, count⟩
  rw [List.mem_map, List.mem_filter, decide_eq_true_eq]
  constructor
  · rintro ⟨opcode, hopcode, heq⟩
    cases heq
    have hmem : opcode ∈ synthesize size := List.mem_eraseDups.1 hopcode
    obtain ⟨e, he, rfl⟩ := List.mem_map.1 (synthesize_subset size hmem)
    rw [count_synthesize he]
    refine ⟨he, ?_⟩
    rw [← count_synthesize he]
    exact List.count_pos_iff.2 hmem
  · rintro ⟨he, hpos⟩
    have hcount : (synthesize size).count opcode = count := count_synthesize he
    have hmem : opcode ∈ synthesize size := List.count_pos_iff.1 (hcount ▸ hpos)
    exact ⟨opcode, List.mem_eraseDups.2 hmem, by rw [hcount]⟩

/-- The profile of an artifact counts the usual mix for its size, and nothing else; and with costs
that are not negative, a larger artifact never costs less. With the standard costs there is a
profile for every size that is not astronomic. -/
theorem usualMix_of_profile (pricing : Pricing) :
    (∀ size : Nat, size ≤ Nat.pow 2 900 → ∃ p, profileOfSize pricing size = .ok p) ∧
      (∀ (table : CostTable) (size : Nat) (p : Profile),
        profile pricing table (synthesize size) = .ok p →
          (p.operations.map fun op => (op.opcode, op.count)).Perm
            (((usualMix size).filter fun e => 0 < e.2).map fun e => (e.1, (e.2 : Int)))) ∧
      ∀ table : CostTable, (∀ e ∈ table, 0 ≤ e.2) → ∀ (size size' : Nat) (p p' : Profile),
        size ≤ size' → profile pricing table (synthesize size) = .ok p →
          profile pricing table (synthesize size') = .ok p' → p.total ≤ p'.total := by
  refine ⟨?_, ?_, ?_⟩
  · intro size hsize
    apply profile_returns_of_bounded pricing natAbs_standardCosts_le
    have hlength := length_synthesize_le size
    have hlimit : (Nat.pow 2 900 + 2) * 20000 ≤ Nat.pow 2 safeBits := by
      decide +kernel
    exact Nat.le_trans (Nat.mul_le_mul_right _ (Nat.le_trans hlength (Nat.add_le_add_right hsize 2)))
      hlimit
  · intro table size p hp
    have hcounts := congrArg (List.map fun figures => (figures.1, figures.2.2.2))
      (figures_of_profile hp)
    rw [List.map_map, List.map_map] at hcounts
    have hperm := (perm_usualMix size).map fun e => (e.1, (e.2 : Int))
    rw [List.map_map] at hperm
    exact (List.Perm.of_eq hcounts).trans hperm
  · intro table hcosts size size' p p' hsize hp hp'
    rw [total_of_profile hp, total_of_profile hp']
    apply ((synthesize_sublist hsize).map table.cost).sum_le_sum
    intro cost hcost
    obtain ⟨opcode, -, rfl⟩ := List.mem_map.1 hcost
    exact table.cost_nonneg hcosts opcode

/-- An artifact that is just too large not to emit an event, beside the largest one that is not. -/
theorem usualMix_of_profile_firstEvent :
    ∃ p p', profileOfSize ⟨.literal 1 10, .literal 3500 1⟩ 500 = .ok p ∧
      profileOfSize ⟨.literal 1 10, .literal 3500 1⟩ 501 = .ok p' ∧ p.total ≤ p'.total ∧
      (p'.operations.map fun op => (op.opcode, op.count)).Perm
        ([("call", 3), ("storage.load", 3), ("storage.store", 2), ("memory.grow", 4),
          ("memory.copy", 6), ("i32.add", 7), ("i32.mul", 6), ("i32.eq", 6), ("i64.add", 6),
          ("log1", 1)] : List (Text × Int)) := by
  obtain ⟨hreturns, hcounts, hmono⟩ := usualMix_of_profile ⟨.literal 1 10, .literal 3500 1⟩
  obtain ⟨p, hp⟩ := hreturns 500 (by decide +kernel)
  obtain ⟨p', hp'⟩ := hreturns 501 (by decide +kernel)
  exact ⟨p, p', hp, hp', hmono standardCosts (by decide) 500 501 p p' (by decide) hp hp',
    hcounts standardCosts 501 p' hp'⟩

end ContractBuild.Gas
