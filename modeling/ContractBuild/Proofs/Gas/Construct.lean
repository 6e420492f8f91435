import ContractBuild.Gas.Quote

/-!
# Constructs across a cut

The scan for keywords takes the first keyword that it meets and goes on behind it. `Holds t n` says
that `n` keywords can be marked in `t` without overlaps, in any way. No keyword stands within
another one, so the scan marks as many as can be marked at all (`holds_constructCount`,
`le_constructCount`), though two keywords may share a letter.

Main statement: where a text is cut, at most the one keyword is lost that the cut goes through
(`constructCount_append`).
-/

set_option autoImplicit false

namespace ContractBuild.Gas

/-! ## Keywords -/

/-- Every keyword has a first character. -/
theorem keyword_ne_nil : ∀ k ∈ constructKeywords, k ≠ [] := by
  decide

/-- No keyword begins another one. -/
theorem keyword_prefix_inj :
    ∀ k ∈ constructKeywords, ∀ k' ∈ constructKeywords, k <+: k' → k = k' := by
  decide

/-- Two keywords that begin one text are the same. -/
theorem keyword_unique {k k' t : Text} (hk : k ∈ constructKeywords) (hk' : k' ∈ constructKeywords)
    (h : k <+: t) (h' : k' <+: t) : k = k' := by
  rcases List.prefix_or_prefix_of_prefix h h' with hle | hle
  · exact keyword_prefix_inj k hk k' hk' hle
  · exact (keyword_prefix_inj k' hk' k hk hle).symm

/-- No keyword stands in another one behind its first character. -/
theorem keyword_not_within :
    ∀ k ∈ constructKeywords, ∀ k' ∈ constructKeywords, ¬ k' <:+: k.tail := by
  have hcontains : ∀ k ∈ constructKeywords, ∀ k' ∈ constructKeywords,
      Text.contains k' k.tail = false := by
    decide
  intro k hk k' hk' hinfix
  rw [← Text.contains_iff, hcontains k hk k' hk'] at hinfix
  cases hinfix

/-- The text begins with no keyword. -/
def StartsPlain (t : Text) : Prop :=
  ∀ k ∈ constructKeywords, ¬ k <+: t

theorem keywordLength?_eq_none_iff {t : Text} : keywordLength? t = none ↔ StartsPlain t := by
  simp only [keywordLength?, StartsPlain, Option.map_eq_none_iff, List.find?_eq_none, Text.after?,
    List.isPrefixOf_iff_prefix]
  refine forall₂_congr fun k _ => ?_
  split <;> simp [*]

theorem exists_keyword_of_length {t : Text} {n : Nat} (h : keywordLength? t = some n) :
    ∃ k ∈ constructKeywords, ∃ u, t = k ++ u ∧ n = k.length := by
  obtain ⟨k, hfind, rfl⟩ := Option.map_eq_some_iff.1 h
  have hsome := List.find?_some (p := fun k => (Text.after? k t).isSome) hfind
  obtain ⟨u, hu⟩ := Option.isSome_iff_exists.1 hsome
  exact ⟨k, List.mem_of_find?_eq_some hfind, u, Text.eq_append_of_after? hu, rfl⟩

/-- Whatever keyword is found in front of a text that begins with one, it is that one. -/
theorem keywordLength?_append {k : Text} (hk : k ∈ constructKeywords) (t : Text) :
    keywordLength? (k ++ t) = some k.length := by
  cases h : keywordLength? (k ++ t) with
  | none => exact absurd (List.prefix_append k t) (keywordLength?_eq_none_iff.1 h k hk)
  | some n =>
    obtain ⟨k', hk', u, heq, rfl⟩ := exists_keyword_of_length h
    rw [keyword_unique hk hk' (List.prefix_append k t) (heq ▸ List.prefix_append k' u)]

/-! ## The scan -/

theorem countFrom_cons (c : Char) (rest : Text) (count : Nat) :
    countFrom (c :: rest) 0 count =
      match keywordLength? (c :: rest) with
      | some n => countFrom rest (n - 1) (count + 1)
      | none => countFrom rest 0 count :=
  rfl

/-- The scan passes over what still belongs to a keyword, and adds what it finds behind it. -/
theorem countFrom_eq (t : Text) (skip count : Nat) :
    countFrom t skip count = count + constructCount (t.drop skip) := by
  induction t generalizing skip count with
  | nil =>
    rw [List.drop_nil]
    rfl
  | cons c rest ih =>
    cases skip with
    | succ skip => exact ih skip count
    | zero =>
      rw [List.drop_zero, constructCount, countFrom_cons, countFrom_cons]
      cases keywordLength? (c :: rest) with
      | none => simp only [ih, Nat.zero_add]
      | some n => simp only [ih, Nat.zero_add, Nat.add_assoc]

theorem constructCount_skip {c : Char} {t : Text} (h : StartsPlain (c :: t)) :
    constructCount (c :: t) = constructCount t := by
  rw [constructCount, countFrom_cons, keywordLength?_eq_none_iff.2 h]
  rfl

theorem constructCount_mark {k : Text} (hk : k ∈ constructKeywords) (t : Text) :
    constructCount (k ++ t) = constructCount t + 1 := by
  obtain ⟨c, rest, rfl⟩ := List.exists_cons_of_ne_nil (keyword_ne_nil k hk)
  have hlength := keywordLength?_append hk t
  rw [List.cons_append] at hlength ⊢
  rw [constructCount, countFrom_cons, hlength]
  simp only [List.length_cons, Nat.add_sub_cancel]
  rw [countFrom_eq, List.drop_left, Nat.zero_add, Nat.add_comm]

/-- The scan goes through a text character by character, and keyword by keyword where there are
some. -/
@[elab_as_elim]
theorem scan_induction {P : Text → Prop} (nil : P [])
    (skip : ∀ c t, StartsPlain (c :: t) → P t → P (c :: t))
    (mark : ∀ k ∈ constructKeywords, ∀ t, P t → P (k ++ t)) (t : Text) : P t := by
  induction hlength : t.length using Nat.strongRecOn generalizing t with
  | _ length ih =>
    subst hlength
    match t with
    | [] => exact nil
    | c :: rest =>
      cases hk : keywordLength? (c :: rest) with
      | none =>
        exact skip c rest (keywordLength?_eq_none_iff.1 hk)
          (ih rest.length (Nat.lt_succ_self _) rest rfl)
      | some n =>
        obtain ⟨k, hmem, u, heq, -⟩ := exists_keyword_of_length hk
        have hpos := List.length_pos_iff.2 (keyword_ne_nil k hmem)
        rw [heq] at ih ⊢
        exact mark k hmem u (ih u.length (by rw [List.length_append]; omega) u rfl)

/-! ## Keywords that are marked without overlaps -/

/-- So many keywords can be marked in the text without overlaps. -/
inductive Holds : Text → Nat → Prop
  | nil : Holds [] 0
  | skip (c : Char) {t : Text} {n : Nat} : Holds t n → Holds (c :: t) n
  | mark {k t : Text} {n : Nat} : k ∈ constructKeywords → Holds t n → Holds (k ++ t) (n + 1)

namespace Holds

variable {s t u : Text} {m n : Nat}

/-- Either the first character belongs to no mark, or a keyword is marked there. -/
theorem of_cons {c : Char} (h : Holds (c :: t) n) :
    Holds t n ∨ ∃ k ∈ constructKeywords, ∃ u m, c :: t = k ++ u ∧ n = m + 1 ∧ Holds u m := by
  generalize heq : c :: t = all at h
  cases h with
  | nil => cases heq
  | skip d h =>
    cases heq
    exact .inl h
  | mark hk h => exact .inr ⟨_, hk, _, _, rfl, rfl, h⟩

theorem behind (s : Text) (h : Holds t n) : Holds (s ++ t) n := by
  induction s with
  | nil => exact h
  | cons c s ih => exact ih.skip c

theorem none (t : Text) : Holds t 0 := by
  have h := Holds.nil.behind t
  rwa [List.append_nil] at h

/-- What is marked in two texts is marked in both together. -/
theorem append (hs : Holds s m) (ht : Holds t n) : Holds (s ++ t) (m + n) := by
  induction hs with
  | nil => rwa [Nat.zero_add]
  | skip c _ ih => exact ih.skip c
  | mark hk _ ih =>
    rw [List.append_assoc, Nat.add_right_comm]
    exact ih.mark hk

/-- At most one mark goes through a cut. -/
theorem cut (s : Text) (h : Holds (s ++ t) n) :
    ∃ m m', Holds s m ∧ Holds t m' ∧ n ≤ m + m' + 1 := by
  -- along the marks, up to the first one that reaches the cut
  generalize heq : s ++ t = all at h
  induction h generalizing s with
  | nil =>
    obtain ⟨rfl, rfl⟩ := List.append_eq_nil_iff.1 heq
    exact ⟨0, 0, .nil, .nil, Nat.zero_le _⟩
  | @skip c u n h ih =>
    cases s with
    | nil =>
      obtain rfl : t = c :: u := heq
      exact ⟨0, n, .nil, h.skip c, by omega⟩
    | cons d s =>
      obtain ⟨rfl, hrest⟩ := List.cons.inj heq
      obtain ⟨m, m', hs, ht, hle⟩ := ih s hrest
      exact ⟨m, m', hs.skip d, ht, hle⟩
  | @mark k u n hk h ih =>
    rcases List.append_eq_append_iff.1 heq with ⟨rest, -, rfl⟩ | ⟨rest, rfl, hrest⟩
    · exact ⟨0, n, .none s, h.behind rest, by omega⟩
    · obtain ⟨m, m', hs, ht, hle⟩ := ih rest hrest.symm
      exact ⟨m + 1, m', hs.mark hk, ht, by omega⟩

/-- Where no keyword stands, at most one mark begins. -/
theorem of_plain {v : Text} (hv : ∀ k ∈ constructKeywords, ¬ k <:+: v) (h : Holds (v ++ u) n) :
    ∃ m, Holds u m ∧ n ≤ m + 1 := by
  induction v with
  | nil => exact ⟨n, h, Nat.le_succ n⟩
  | cons c v ih =>
    rcases of_cons (t := v ++ u) h with h | ⟨k, hk, u', m, heq, rfl, hm⟩
    · exact ih (fun k hk hwithin => hv k hk (hwithin.trans (List.suffix_cons c v).isInfix)) h
    · rw [← List.cons_append] at heq
      rcases List.append_eq_append_iff.1 heq with ⟨rest, -, rfl⟩ | ⟨rest, hrest, -⟩
      · exact ⟨m, hm.behind rest, Nat.le_refl _⟩
      · exact absurd ⟨[], rest, hrest.symm⟩ (hv k hk)

/-- In a keyword at most one mark begins: either the keyword is marked, or the mark goes on behind
it. -/
theorem of_mark {k : Text} (hk : k ∈ constructKeywords) (h : Holds (k ++ u) n) :
    ∃ m, Holds u m ∧ n ≤ m + 1 := by
  obtain ⟨c, v, rfl⟩ := List.exists_cons_of_ne_nil (keyword_ne_nil k hk)
  rcases of_cons (t := v ++ u) h with h | ⟨k', hk', u', m, heq, rfl, hm⟩
  · exact of_plain (keyword_not_within _ hk) h
  · rw [← List.cons_append] at heq
    obtain rfl : k' = c :: v := keyword_unique hk' hk ⟨u', heq.symm⟩ (List.prefix_append _ u)
    obtain rfl := List.append_cancel_left heq
    exact ⟨m, hm, Nat.le_refl _⟩

end Holds

/-- What the scan finds can be marked. -/
theorem holds_constructCount (t : Text) : Holds t (constructCount t) := by
  induction t using scan_induction with
  | nil => exact .nil
  | skip c t hplain ih =>
    rw [constructCount_skip hplain]
    exact ih.skip c
  | mark k hk t ih =>
    rw [constructCount_mark hk]
    exact ih.mark hk

/-- Nothing that can be marked is more than what the scan finds. -/
theorem Holds.le_constructCount {t : Text} {n : Nat} (h : Holds t n) : n ≤ constructCount t := by
  induction t using scan_induction generalizing n with
  | nil =>
    generalize heq : ([] : Text) = all at h
    cases h with
    | nil => exact Nat.le_refl 0
    | skip c h => cases heq
    | mark hk h => exact absurd (List.append_eq_nil_iff.1 heq.symm).1 (keyword_ne_nil _ hk)
  | skip c t hplain ih =>
    rw [constructCount_skip hplain]
    rcases h.of_cons with h | ⟨k, hk, u, m, heq, -, -⟩
    · exact ih h
    · exact absurd ⟨u, heq.symm⟩ (hplain k hk)
  | mark k hk t ih =>
    obtain ⟨m, hm, hle⟩ := h.of_mark hk
    have := ih hm
    rw [constructCount_mark hk]
    omega

/-- A cut changes the count by at most the one construct that it goes through. -/
theorem constructCount_append (s t : Text) :
    constructCount s + constructCount t ≤ constructCount (s ++ t) ∧
      constructCount (s ++ t) ≤ constructCount s + constructCount t + 1 := by
  constructor
  · exact ((holds_constructCount s).append (holds_constructCount t)).le_constructCount
  · obtain ⟨m, m', hs, ht, hle⟩ := (holds_constructCount (s ++ t)).cut s
    have hs := hs.le_constructCount
    have ht := ht.le_constructCount
    omega

/-- A text has at least as many characters as constructs. -/
theorem constructCount_le_length (t : Text) : constructCount t ≤ t.length := by
  induction t using scan_induction with
  | nil => exact Nat.le_refl 0
  | skip c t hplain ih =>
    rw [constructCount_skip hplain]
    exact Nat.le_succ_of_le ih
  | mark k hk t ih =>
    have hpos := List.length_pos_iff.2 (keyword_ne_nil k hk)
    rw [constructCount_mark hk, List.length_append]
    omega

end ContractBuild.Gas
