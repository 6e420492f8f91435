import ContractBuild.Diagnostic.Merge
import Mathlib.Data.List.Nodup

/-!
# Merged diagnostics

Batches of diagnostics are merged into one list, one batch after another. A list with no
repetitions keeps none, a diagnostic that the list has under its key is not looked at any more, and
so the list is at every time made of the first diagnostic with each key that has come so far
(`merge_eq`, `find?_key_merge`). How the diagnostics are cut into batches is of no account.

Main statement: `merged_isFirsts`.
-/

set_option autoImplicit false

namespace ContractBuild.Diagnostic

/-- The diagnostics without those that repeat an earlier one. -/
def firsts (ds : List Diagnostic) : List Diagnostic :=
  ds.eraseDupsBy fun later earlier => later.key = earlier.key

variable {into new : List Diagnostic} {d : Diagnostic}

/-! ## One diagnostic more -/

theorem any_key_iff : into.any (·.key = d.key) = true ↔ d.key ∈ into.map key := by
  simp only [List.any_eq_true, decide_eq_true_eq, List.mem_map]

theorem mergeOne_of_mem (h : d.key ∈ into.map key) : mergeOne into d = into :=
  if_pos (any_key_iff.2 h)

theorem mergeOne_of_notMem (h : d.key ∉ into.map key) : mergeOne into d = into ++ [d] :=
  if_neg fun hany => h (any_key_iff.1 hany)

/-- A list that has each key once has each key once with one diagnostic more. -/
theorem nodup_mergeOne (h : (into.map key).Nodup) : ((mergeOne into d).map key).Nodup := by
  by_cases hd : d.key ∈ into.map key
  · rw [mergeOne_of_mem hd]
    exact h
  · rw [mergeOne_of_notMem hd, List.map_append]
    apply h.append (List.nodup_singleton _)
    intro k hk hnew
    exact hd (List.mem_singleton.1 hnew ▸ hk)

/-- The first diagnostic with a key is the same whether one more is merged or put behind. -/
theorem find?_key_mergeOne (into rest : List Diagnostic) (d : Diagnostic) (k : Key) :
    (mergeOne into d ++ rest).find? (·.key = k) = (into ++ d :: rest).find? (·.key = k) := by
  by_cases hd : d.key ∈ into.map key
  · rw [mergeOne_of_mem hd, List.find?_append, List.find?_append, List.find?_cons]
    by_cases hk : d.key = k
    · -- the key is in the list, and what stands behind is not asked for
      obtain ⟨e, he, hekey⟩ := List.mem_map.1 hd
      have hfound : (into.find? (·.key = k)).isSome = true := by
        rw [List.find?_isSome]
        exact ⟨e, he, by rw [hekey, hk, decide_eq_true_eq]⟩
      rw [Option.or_of_isSome hfound, Option.or_of_isSome hfound]
    · simp [hk]
  · rw [mergeOne_of_notMem hd, List.append_assoc, List.singleton_append]

/-! ## One batch more -/

/-- What a batch puts behind the list: those of its diagnostics whose key the list has not, without
repetitions. -/
theorem merge_eq (into new : List Diagnostic) :
    merge into new = into ++ firsts (new.filter fun d => d.key ∉ into.map key) := by
  -- By induction on the batch for every list; with one diagnostic the list gets one key more, which
  -- is then filtered out of the rest.
  induction new generalizing into with
  | nil => exact (List.append_nil into).symm
  | cons d rest ih =>
    have hstep : merge into (d :: rest) = merge (mergeOne into d) rest := rfl
    rw [hstep, ih]
    by_cases hd : d.key ∈ into.map key
    · rw [mergeOne_of_mem hd, List.filter_cons_of_neg (by simpa using hd)]
    · rw [mergeOne_of_notMem hd, List.filter_cons_of_pos (by simpa using hd), firsts, firsts,
        List.eraseDupsBy_cons, List.filter_filter, List.append_assoc, List.singleton_append]
      have hfilter : ∀ e : Diagnostic, decide (e.key ∉ (into ++ [d]).map key) =
          (decide (decide (e.key = d.key) = false) && decide (e.key ∉ into.map key)) := by
        intro e
        simp [and_comm]
      simp only [hfilter]

theorem prefix_merge (into new : List Diagnostic) : into <+: merge into new :=
  ⟨_, (merge_eq into new).symm⟩

/-- A batch that brings no new key changes nothing. -/
theorem merge_eq_self (h : ∀ d ∈ new, d.key ∈ into.map key) : merge into new = into := by
  have hnone : new.filter (fun d => d.key ∉ into.map key) = [] := by
    rw [List.filter_eq_nil_iff]
    intro d hd
    simpa using h d hd
  rw [merge_eq, hnone]
  exact List.append_nil into

theorem nodup_merge (h : (into.map key).Nodup) : ((merge into new).map key).Nodup := by
  induction new generalizing into with
  | nil => exact h
  | cons d rest ih => exact ih (nodup_mergeOne h)

/-- The first diagnostic with a key is the same whether a batch is merged or put behind. -/
theorem find?_key_merge (into new : List Diagnostic) (k : Key) :
    (merge into new).find? (·.key = k) = (into ++ new).find? (·.key = k) := by
  induction new generalizing into with
  | nil =>
    rw [List.append_nil]
    rfl
  | cons d rest ih =>
    have hstep : merge into (d :: rest) = merge (mergeOne into d) rest := rfl
    rw [hstep, ih, find?_key_mergeOne]

/-- The keys of a merged list are those of both lists. -/
theorem mem_keys_merge_iff {k : Key} :
    k ∈ (merge into new).map key ↔ k ∈ into.map key ∨ k ∈ new.map key := by
  have hfound : ∀ ds : List Diagnostic,
      k ∈ ds.map key ↔ (ds.find? (·.key = k)).isSome = true := by
    intro ds
    simp only [List.find?_isSome, decide_eq_true_eq, List.mem_map]
  rw [hfound, find?_key_merge, ← hfound, List.map_append, List.mem_append]

/-- In a list that has each key once, a diagnostic is the first one with its key. -/
theorem find?_key_of_nodup (h : (into.map key).Nodup) (hd : d ∈ into) :
    into.find? (·.key = d.key) = some d := by
  induction into with
  | nil => cases hd
  | cons e rest ih =>
    obtain ⟨he, hrest⟩ := List.nodup_cons.1 h
    rcases List.mem_cons.1 hd with rfl | hd
    · exact List.find?_cons_of_pos (decide_eq_true rfl)
    · have hne : e.key ≠ d.key := fun heq => he (heq ▸ List.mem_map_of_mem hd)
      rw [List.find?_cons_of_neg (by simpa using hne)]
      exact ih hrest hd

/-! ## All batches -/

/-- Merging batch by batch is merging all of them at once. -/
theorem foldl_merge (into : List Diagnostic) (batches : List (List Diagnostic)) :
    batches.foldl merge into = merge into batches.flatten := by
  induction batches generalizing into with
  | nil => rfl
  | cons batch rest ih =>
    have hcut : merge into (batch ++ rest.flatten) = merge (merge into batch) rest.flatten :=
      List.foldl_append
    rw [List.foldl_cons, ih, List.flatten_cons, hcut]

/-- The list is made of the first diagnostic with each key of the batches, as it has come, and it
has only grown on the way. -/
structure IsFirsts (batches : List (List Diagnostic)) (merged : List Diagnostic) : Prop where
  eq_firsts : merged = firsts batches.flatten
  eq_merge : merged = merge [] batches.flatten
  /-- The keys are pairwise different. -/
  nodup : (merged.map key).Nodup
  /-- Every key of every batch is there. -/
  complete : ∀ batch ∈ batches, ∀ d ∈ batch, d.key ∈ merged.map key
  /-- Of the diagnostics with one key, the first one is kept as it is. -/
  first : ∀ d ∈ merged, batches.flatten.find? (·.key = d.key) = some d
  /-- What the list was after some of the batches is the beginning of it. -/
  grown : ∀ earlier later, batches = earlier ++ later → earlier.foldl merge [] <+: merged
  /-- A batch that was merged already changes nothing when it is merged again. -/
  settled : ∀ batch ∈ batches, merge merged batch = merged

/-- Batches that are merged one after another into an empty list leave the first diagnostic with
each key. -/
theorem merged_isFirsts (batches : List (List Diagnostic)) :
    IsFirsts batches (batches.foldl merge []) := by
  have hmerge := foldl_merge [] batches
  have hnodup : ((batches.foldl merge []).map key).Nodup := by
    rw [hmerge]
    exact nodup_merge List.nodup_nil
  have hcomplete : ∀ batch ∈ batches, ∀ d ∈ batch, d.key ∈ (batches.foldl merge []).map key := by
    intro batch hbatch d hd
    rw [hmerge, mem_keys_merge_iff]
    exact .inr (List.mem_map_of_mem (List.mem_flatten_of_mem hbatch hd))
  constructor
  case eq_firsts =>
    rw [hmerge, merge_eq, List.nil_append]
    simp only [List.map_nil, List.not_mem_nil, not_false_eq_true, decide_true, List.filter_true]
  case eq_merge => exact hmerge
  case nodup => exact hnodup
  case complete => exact hcomplete
  case first =>
    intro d hd
    have hfirst := find?_key_of_nodup hnodup hd
    rwa [hmerge, find?_key_merge, List.nil_append] at hfirst
  case grown =>
    rintro earlier later rfl
    rw [List.foldl_append, foldl_merge (earlier.foldl merge [])]
    exact prefix_merge _ _
  case settled =>
    intro batch hbatch
    exact merge_eq_self (hcomplete batch hbatch)

end ContractBuild.Diagnostic
