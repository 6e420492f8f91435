import ContractBuild.Gas.Profile
import Mathlib.Algebra.BigOperators.Group.Finset.Basic
import Mathlib.Algebra.Ring.Int.Defs

/-!
# Tallies

The tallies of a stream are kept in a list that is changed with every operation. After all of them
there is one tally for each opcode of the stream, in the order in which the stream has them first,
and it tells how often the stream has the opcode and what that costs in all (`tallies_eq`). So the
gas of all tallies is what the operations cost one by one (`totalGas_tallies`), and a stream in
another order has the same tallies in another order (`perm_tallies`).
-/

set_option autoImplicit false

namespace ContractBuild.Gas

/-! ## First occurrences -/

section FirstOccurrences

variable {α : Type} [BEq α] [LawfulBEq α] {xs ys : List α} {x : α}

theorem eraseDups_concat_of_mem (h : x ∈ xs) : (xs ++ [x]).eraseDups = xs.eraseDups := by
  have hrest : [x].removeAll xs = [] := by
    simp [List.removeAll, h]
  rw [List.eraseDups_append, hrest, List.eraseDups_nil, List.append_nil]

theorem eraseDups_concat_of_notMem (h : x ∉ xs) :
    (xs ++ [x]).eraseDups = xs.eraseDups ++ [x] := by
  have hrest : [x].removeAll xs = [x] := by
    simp [List.removeAll, h]
  rw [List.eraseDups_append, hrest]
  rfl

/-- What is left stands in the order of the first occurrences. -/
theorem pairwise_idxOf_eraseDups (xs : List α) :
    xs.eraseDups.Pairwise fun x y => xs.idxOf x < xs.idxOf y := by
  -- By induction from the end; one element more does not move the first occurrence of any other.
  induction xs using List.reverseRecOn with
  | nil => exact List.Pairwise.nil
  | append_singleton xs x ih =>
    have hold : xs.eraseDups.Pairwise fun y z => (xs ++ [x]).idxOf y < (xs ++ [x]).idxOf z := by
      refine ih.imp_of_mem ?_
      intro y z hy hz hlt
      rw [List.idxOf_append_of_mem (List.mem_eraseDups.1 hy),
        List.idxOf_append_of_mem (List.mem_eraseDups.1 hz)]
      exact hlt
    by_cases hx : x ∈ xs
    · rw [eraseDups_concat_of_mem hx]
      exact hold
    · rw [eraseDups_concat_of_notMem hx, List.pairwise_append]
      refine ⟨hold, List.pairwise_singleton _ _, ?_⟩
      intro y hy z hz
      have hy : y ∈ xs := List.mem_eraseDups.1 hy
      rw [List.mem_singleton.1 hz, List.idxOf_append_of_mem hy, List.idxOf_append_of_notMem hx]
      have hlt : xs.idxOf y < xs.length := List.idxOf_lt_length_of_mem hy
      omega

theorem nodup_eraseDups (xs : List α) : xs.eraseDups.Nodup := by
  refine (pairwise_idxOf_eraseDups xs).imp ?_
  intro x y hlt heq
  rw [heq] at hlt
  exact Nat.lt_irrefl _ hlt

theorem perm_eraseDups (h : xs.Perm ys) : xs.eraseDups.Perm ys.eraseDups := by
  rw [List.perm_ext_iff_of_nodup (nodup_eraseDups xs) (nodup_eraseDups ys)]
  intro x
  rw [List.mem_eraseDups, List.mem_eraseDups, h.mem_iff]

/-- A sum over all elements is a sum over the different ones, each as often as it occurs. -/
theorem sum_map_eraseDups (xs : List α) (f : α → Int) :
    (xs.eraseDups.map fun x => xs.count x * f x).sum = (xs.map f).sum := by
  classical
  obtain rfl : ‹BEq α› = instBEqOfDecidableEq := lawful_beq_subsingleton _ _
  have hset : xs.eraseDups.toFinset = xs.toFinset := by
    ext x
    rw [List.mem_toFinset, List.mem_toFinset, List.mem_eraseDups]
  rw [Finset.sum_list_map_count xs f, ← hset, List.sum_toFinset _ (nodup_eraseDups xs)]
  simp

end FirstOccurrences

/-! ## The tallies of a stream -/

theorem gasSum_eq_sum (amounts : List Int) : gasSum amounts = amounts.sum := rfl

section Tallies

variable (table : CostTable) {stream : List Text} {opcode : Text}

/-- What the stream has of an opcode. -/
def tallyOf (stream : List Text) (opcode : Text) : Tally :=
  ⟨opcode, stream.count opcode * table.cost opcode, stream.count opcode⟩

@[simp] theorem tallyOf_opcode (stream : List Text) (opcode : Text) :
    (tallyOf table stream opcode).opcode = opcode := rfl

/-- One operation more counts for its own opcode. -/
theorem tallyOf_concat_self (stream : List Text) (opcode : Text) :
    tallyOf table (stream ++ [opcode]) opcode =
      ⟨opcode, (tallyOf table stream opcode).gas + table.cost opcode,
        (tallyOf table stream opcode).count + 1⟩ := by
  simp [tallyOf, List.count_append, Int.add_mul]

/-- One operation more does not count for another opcode. -/
theorem tallyOf_concat_of_ne {other : Text} (h : other ≠ opcode) :
    tallyOf table (stream ++ [opcode]) other = tallyOf table stream other := by
  have hcount : (stream ++ [opcode]).count other = stream.count other := by
    rw [List.count_append, List.count_singleton, if_neg (by simpa using h.symm), Nat.add_zero]
  rw [tallyOf, tallyOf, hcount]

/-- An operation whose opcode has a tally already. -/
theorem addOperation_of_mem {opcodes : List Text} (hnodup : opcodes.Nodup) (h : opcode ∈ opcodes) :
    addOperation table opcode (opcodes.map (tallyOf table stream)) =
      opcodes.map (tallyOf table (stream ++ [opcode])) := by
  induction opcodes with
  | nil => cases h
  | cons first rest ih =>
    obtain ⟨hfirst, hrest⟩ := List.nodup_cons.1 hnodup
    rw [List.map_cons, List.map_cons, addOperation, tallyOf_opcode]
    by_cases heq : first = opcode
    · -- the tallies behind are those of other opcodes
      subst heq
      have hothers : rest.map (tallyOf table (stream ++ [first])) =
          rest.map (tallyOf table stream) := by
        apply List.map_congr_left
        intro other hother
        exact tallyOf_concat_of_ne table fun heq => hfirst (heq ▸ hother)
      rw [if_pos rfl, tallyOf_concat_self, hothers]
    · have hmem : opcode ∈ rest := (List.mem_cons.1 h).resolve_left (Ne.symm heq)
      rw [if_neg heq, tallyOf_concat_of_ne table heq, ih hrest hmem]

/-- An operation whose opcode is new. -/
theorem addOperation_of_notMem {ts : List Tally} (h : opcode ∉ ts.map (·.opcode)) :
    addOperation table opcode ts = ts ++ [⟨opcode, table.cost opcode, 1⟩] := by
  induction ts with
  | nil => rfl
  | cons t rest ih =>
    rw [List.map_cons, List.mem_cons, not_or] at h
    rw [addOperation, if_neg (Ne.symm h.1), ih h.2, List.cons_append]

/-- One tally for each opcode of the stream, in the order in which the stream has them first. -/
theorem tallies_eq (stream : List Text) :
    tallies table stream = stream.eraseDups.map (tallyOf table stream) := by
  -- By induction from the end, as the operations are counted.
  induction stream using List.reverseRecOn with
  | nil => rfl
  | append_singleton stream opcode ih =>
    have hstep : tallies table (stream ++ [opcode]) =
        addOperation table opcode (tallies table stream) := by
      rw [tallies, List.foldl_append]
      rfl
    rw [hstep, ih]
    by_cases h : opcode ∈ stream
    · rw [eraseDups_concat_of_mem h]
      exact addOperation_of_mem table (nodup_eraseDups stream) (List.mem_eraseDups.2 h)
    · have hnew : opcode ∉ (stream.eraseDups.map (tallyOf table stream)).map (·.opcode) := by
        rw [List.map_map]
        intro hmem
        obtain ⟨other, hother, rfl⟩ := List.mem_map.1 hmem
        exact h (List.mem_eraseDups.1 hother)
      have hfirst : tallyOf table (stream ++ [opcode]) opcode =
          ⟨opcode, table.cost opcode, 1⟩ := by
        simp [tallyOf, List.count_append, List.count_eq_zero_of_not_mem h]
      have hothers : stream.eraseDups.map (tallyOf table (stream ++ [opcode])) =
          stream.eraseDups.map (tallyOf table stream) := by
        apply List.map_congr_left
        intro other hother
        exact tallyOf_concat_of_ne table fun heq => h (heq ▸ List.mem_eraseDups.1 hother)
      rw [addOperation_of_notMem table hnew, eraseDups_concat_of_notMem h, List.map_append, hothers,
        List.map_singleton, hfirst]

/-- The gas of all tallies is what the operations of the stream cost. -/
theorem totalGas_tallies (stream : List Text) :
    totalGas (tallies table stream) = (stream.map table.cost).sum := by
  rw [tallies_eq, totalGas, gasSum_eq_sum, List.map_map]
  exact sum_map_eraseDups stream table.cost

/-- The tallies count every operation of the stream once. -/
theorem sum_count_tallies (stream : List Text) :
    ((tallies table stream).map fun t => (t.count : Int)).sum = stream.length := by
  rw [tallies_eq, List.map_map]
  have hsum := sum_map_eraseDups stream fun _ => 1
  simpa [Function.comp_def, tallyOf] using hsum

/-- A stream in another order has the same tallies, in another order. -/
theorem perm_tallies {stream' : List Text} (h : stream'.Perm stream) :
    (tallies table stream').Perm (tallies table stream) := by
  have hsame : tallyOf table stream' = tallyOf table stream := by
    funext opcode
    rw [tallyOf, tallyOf, h.count_eq]
  rw [tallies_eq, tallies_eq, hsame]
  exact (perm_eraseDups h).map _

end Tallies

end ContractBuild.Gas
