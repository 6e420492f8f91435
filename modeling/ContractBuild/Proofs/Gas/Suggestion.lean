import ContractBuild.Proofs.Gas.Profile

/-!
# What a profile suggests

The suggestions are made from the entries of a profile, and said here of the stream that it was made
from. The operation that is named as repeated is looked for among the entries, which stand in the
order of the first occurrences, and of several with the same count the first one is taken
(`first_of_mostFrequent?`); so it is the opcode that the stream has most often, and of several the
one that it has first (`worst_of_profile`).

Main statement: `profile_isAdvised`.
-/

set_option autoImplicit false

namespace ContractBuild.Gas

/-! ## The entry that occurs most often -/

section MostFrequent

variable {ops : List OperationCost} {worst : OperationCost}

/-- One entry more is taken only if it occurs more often than the one taken so far. -/
theorem mostFrequent?_concat (ops : List OperationCost) (op : OperationCost) :
    mostFrequent? (ops ++ [op]) = match mostFrequent? ops with
      | none => some op
      | some b => if b.count < op.count then some op else some b := by
  rw [mostFrequent?, List.foldl_append]
  rfl

theorem mostFrequent?_eq_none_iff : mostFrequent? ops = none ↔ ops = [] := by
  constructor
  · intro h
    induction ops using List.reverseRecOn with
    | nil => rfl
    | append_singleton ops op _ =>
      rw [mostFrequent?_concat] at h
      split at h
      · cases h
      · split at h
        · cases h
        · cases h
  · rintro rfl
    rfl

/-- Those before the entry that is taken occur less often, and those behind it not more often. -/
theorem exists_of_mostFrequent? (h : mostFrequent? ops = some worst) :
    ∃ before after, ops = before ++ worst :: after ∧ (∀ op ∈ before, op.count < worst.count) ∧
      ∀ op ∈ after, op.count ≤ worst.count := by
  -- By induction from the end, as the entries are compared.
  induction ops using List.reverseRecOn generalizing worst with
  | nil => cases h
  | append_singleton ops op ih =>
    rw [mostFrequent?_concat] at h
    split at h
    · rename_i hnone
      obtain rfl := mostFrequent?_eq_none_iff.1 hnone
      cases h
      exact ⟨[], [], rfl, List.forall_mem_nil _, List.forall_mem_nil _⟩
    · rename_i best hbest
      obtain ⟨before, after, rfl, hbefore, hafter⟩ := ih hbest
      split at h
      · rename_i hmore
        cases h
        refine ⟨before ++ best :: after, [], rfl, ?_, List.forall_mem_nil _⟩
        intro other hother
        rcases List.mem_append.1 hother with hother | hother
        · exact Int.lt_trans (hbefore other hother) hmore
        · rcases List.mem_cons.1 hother with rfl | hother
          · exact hmore
          · exact Int.lt_of_le_of_lt (hafter other hother) hmore
      · rename_i hless
        cases h
        refine ⟨before, after ++ [op], by rw [List.append_assoc, List.cons_append], hbefore, ?_⟩
        intro other hother
        rcases List.mem_append.1 hother with hother | hother
        · exact hafter other hother
        · rw [List.mem_singleton.1 hother]
          exact Int.not_lt.1 hless

/-- In an order that the entries stand in, the one that is taken comes before all others that occur
as often. -/
theorem first_of_mostFrequent? {R : OperationCost → OperationCost → Prop}
    (hordered : ops.Pairwise R) (h : mostFrequent? ops = some worst) :
    worst ∈ ops ∧ ∀ op ∈ ops, op.count ≤ worst.count ∧
      (op.count = worst.count → op = worst ∨ R worst op) := by
  obtain ⟨before, after, rfl, hbefore, hafter⟩ := exists_of_mostFrequent? h
  have hbehind : ∀ op ∈ after, R worst op :=
    (List.pairwise_cons.1 (List.pairwise_append.1 hordered).2.1).1
  refine ⟨List.mem_append_right _ List.mem_cons_self, ?_⟩
  intro op hop
  rcases List.mem_append.1 hop with hop | hop
  · have hless := hbefore op hop
    exact ⟨Int.le_of_lt hless, fun heq => absurd heq (Int.ne_of_lt hless)⟩
  · rcases List.mem_cons.1 hop with rfl | hop
    · exact ⟨Int.le_refl _, fun _ => .inl rfl⟩
    · exact ⟨hafter op hop, fun _ => .inr (hbehind op hop)⟩

end MostFrequent

/-! ## The opcode that occurs most often -/

/-- No opcode occurs more often in the stream, and of those that occur as often the stream has none
earlier. -/
structure IsMostFrequent (stream : List Text) (opcode : Text) : Prop where
  mem : opcode ∈ stream
  most : ∀ other ∈ stream, stream.count other ≤ stream.count opcode
  first : ∀ other ∈ stream, stream.count other = stream.count opcode →
    stream.idxOf opcode ≤ stream.idxOf other

variable {pricing : Pricing} {table : CostTable} {stream : List Text} {p : Profile}

theorem count_of_mem (h : profile pricing table stream = .ok p) {op : OperationCost}
    (hop : op ∈ p.operations) : op.count = stream.count op.opcode :=
  congrArg (·.2.2.2) (figures_of_mem h hop).2

/-- The entry of an opcode that occurs more often than the limit is one of the repeated ones. -/
theorem exists_repeated (h : profile pricing table stream = .ok p) {opcode : Text}
    (hopcode : opcode ∈ stream) (hlimit : 10 < stream.count opcode) :
    ∃ op ∈ p.operations.filter (repetitionLimit < ·.count), op.opcode = opcode := by
  obtain ⟨op, hop, rfl⟩ := List.mem_map.1 ((mem_opcodes_iff h).2 hopcode)
  refine ⟨op, List.mem_filter.2 ⟨hop, ?_⟩, rfl⟩
  rw [decide_eq_true_eq, count_of_mem h hop, repetitionLimit]
  omega

/-- The repeated entry that occurs most often is that of the opcode that the stream has most often,
and of several the one that it has first. -/
theorem worst_of_profile (h : profile pricing table stream = .ok p) {worst : OperationCost}
    (hworst : mostFrequent? (p.operations.filter (repetitionLimit < ·.count)) = some worst) :
    IsMostFrequent stream worst.opcode ∧ 10 < stream.count worst.opcode ∧
      worst.name = operationName worst.opcode ∧ worst.count = stream.count worst.opcode := by
  -- the repeated entries stand in the order of the first occurrences, as all entries do
  have hordered : (p.operations.filter (repetitionLimit < ·.count)).Pairwise fun op op' =>
      stream.idxOf op.opcode < stream.idxOf op'.opcode := by
    have hopcodes := pairwise_idxOf_eraseDups stream
    rw [← opcodes_of_profile h, List.pairwise_map] at hopcodes
    exact hopcodes.filter _
  obtain ⟨hmem, hall⟩ := first_of_mostFrequent? hordered hworst
  obtain ⟨hop, hlimit⟩ := List.mem_filter.1 hmem
  have hcount := count_of_mem h hop
  rw [decide_eq_true_eq, hcount, repetitionLimit] at hlimit
  have hmore : 10 < stream.count worst.opcode := by omega
  refine ⟨⟨(figures_of_mem h hop).1, ?_, ?_⟩, hmore, congrArg (·.2.1) (figures_of_mem h hop).2,
    hcount⟩
  · intro other hother
    by_cases hrepeated : 10 < stream.count other
    · obtain ⟨op, hin, rfl⟩ := exists_repeated h hother hrepeated
      have hopcount := count_of_mem h (List.mem_filter.1 hin).1
      have hle := (hall op hin).1
      omega
    · omega
  · intro other hother heq
    obtain ⟨op, hin, rfl⟩ := exists_repeated h hother (heq ▸ hmore)
    have hopcount := count_of_mem h (List.mem_filter.1 hin).1
    rcases (hall op hin).2 (by omega) with rfl | hlt
    · exact Nat.le_refl _
    · exact Nat.le_of_lt hlt

/-! ## The texts -/

/-- The text for an operation with this name that occurs so often. -/
def repetitionText (name : Text) (count : Int) : Text :=
  "Operation \"" ++ name ++ "\" is called " ++ Text.ofInt count ++
    " times. Consider caching results or optimizing the loop."

/-- The text is about a repeated operation. -/
def IsRepetition (text : Text) : Prop :=
  ∃ name count, text = repetitionText name count

theorem repetitionAdvice_eq (op : OperationCost) :
    repetitionAdvice op = repetitionText op.name op.count := rfl

/-- The texts that are the same for all profiles. -/
def fixedAdvice : List Text :=
  [storageAdvice, callAdvice, ceilingAdvice, divisionAdvice, generalAdvice]

/-- The texts are told apart by their first letters. -/
theorem openings_fixedAdvice :
    fixedAdvice.map (·.take 3) = ["Sto", "Fun", "Con", "Int", "Sty"] := by
  unfold fixedAdvice storageAdvice callAdvice ceilingAdvice divisionAdvice generalAdvice
  repeat rw [String.toList_ofList]
  rfl

theorem opening_repetitionText (name : Text) (count : Int) :
    (repetitionText name count).take 3 = "Ope" := by
  unfold repetitionText
  rw [String.toList_ofList]
  rfl

/-- No two of the texts are the same. -/
theorem fixedAdvice_ne :
    (storageAdvice ≠ callAdvice ∧ storageAdvice ≠ ceilingAdvice ∧ storageAdvice ≠ divisionAdvice ∧
        storageAdvice ≠ generalAdvice) ∧
      (callAdvice ≠ ceilingAdvice ∧ callAdvice ≠ divisionAdvice ∧ callAdvice ≠ generalAdvice) ∧
      (ceilingAdvice ≠ divisionAdvice ∧ ceilingAdvice ≠ generalAdvice) ∧
      divisionAdvice ≠ generalAdvice := by
  have hopenings : (fixedAdvice.map (·.take 3)).Nodup := by
    rw [openings_fixedAdvice]
    decide
  have hnodup : fixedAdvice.Nodup := hopenings.of_map _
  simpa only [fixedAdvice, List.nodup_cons, List.mem_cons, List.not_mem_nil, or_false, not_or,
    List.nodup_nil, and_true, not_false_eq_true] using hnodup

theorem not_isRepetition {text : Text} (h : text ∈ fixedAdvice) : ¬ IsRepetition text := by
  rintro ⟨name, count, rfl⟩
  have hopening := List.mem_map_of_mem (f := (·.take 3)) h
  rw [openings_fixedAdvice, opening_repetitionText] at hopening
  exact absurd hopening (by decide)

theorem ne_repetitionAdvice {text : Text} (h : text ∈ fixedAdvice) (op : OperationCost) :
    text ≠ repetitionAdvice op := by
  intro heq
  exact not_isRepetition h ⟨op.name, op.count, heq⟩

/-! ## Which texts are there -/

theorem mem_ite_singleton_iff {c : Prop} [Decidable c] {text advice : Text} :
    text ∈ (if c then [advice] else []) ↔ c ∧ text = advice := by
  by_cases h : c
  · simp [h]
  · simp [h]

/-- Which texts stand before the general one. -/
theorem mem_adviceBefore_iff {ops : List OperationCost} {total : Int} {storage calls : Bool}
    {text : Text} :
    text ∈ adviceBefore ops total storage calls ↔
      (storage = true ∧ text = storageAdvice) ∨
        (∃ worst, mostFrequent? (ops.filter (repetitionLimit < ·.count)) = some worst ∧
          text = repetitionAdvice worst) ∨
        (calls = true ∧ text = callAdvice) ∨ (gasCeiling < total ∧ text = ceilingAdvice) ∨
        ((∃ op ∈ ops, ("div" : Text) <:+: op.opcode) ∧ text = divisionAdvice) := by
  simp only [adviceBefore, List.mem_append, mem_ite_singleton_iff, Option.mem_toList,
    Option.map_eq_some_iff, List.any_eq_true, Text.contains_iff, or_assoc,
    eq_comm (b := text)]

/-- Which of the texts that are the same for all profiles stand before the general one. -/
theorem fixed_mem_adviceBefore_iff {ops : List OperationCost} {total : Int} {storage calls : Bool}
    {text : Text} (h : text ∈ fixedAdvice) :
    text ∈ adviceBefore ops total storage calls ↔
      (storage = true ∧ text = storageAdvice) ∨ (calls = true ∧ text = callAdvice) ∨
        (gasCeiling < total ∧ text = ceilingAdvice) ∨
        ((∃ op ∈ ops, ("div" : Text) <:+: op.opcode) ∧ text = divisionAdvice) := by
  rw [mem_adviceBefore_iff]
  simp only [ne_repetitionAdvice h, and_false, exists_false, false_or]

theorem generalAdvice_notMem (ops : List OperationCost) (total : Int) (storage calls : Bool) :
    generalAdvice ∉ adviceBefore ops total storage calls := by
  obtain ⟨⟨-, -, -, hstorage⟩, ⟨-, -, hcall⟩, ⟨-, hceiling⟩, hdivision⟩ := fixedAdvice_ne
  rw [fixed_mem_adviceBefore_iff (by simp [fixedAdvice])]
  simp only [hstorage.symm, hcall.symm, hceiling.symm, hdivision.symm, and_false, or_false,
    not_false_eq_true]

theorem ceilingAdvice_mem_iff {ops : List OperationCost} {total : Int} {storage calls : Bool} :
    ceilingAdvice ∈ adviceBefore ops total storage calls ↔ gasCeiling < total := by
  obtain ⟨⟨-, hstorage, -, -⟩, ⟨hcall, -, -⟩, ⟨hdivision, -⟩, -⟩ := fixedAdvice_ne
  rw [fixed_mem_adviceBefore_iff (by simp [fixedAdvice])]
  simp only [hstorage.symm, hcall.symm, hdivision, and_false, false_or, or_false, and_true]

theorem divisionAdvice_mem_iff {ops : List OperationCost} {total : Int} {storage calls : Bool} :
    divisionAdvice ∈ adviceBefore ops total storage calls ↔
      ∃ op ∈ ops, ("div" : Text) <:+: op.opcode := by
  obtain ⟨⟨-, -, hstorage, -⟩, ⟨-, hcall, -⟩, ⟨hceiling, -⟩, -⟩ := fixedAdvice_ne
  rw [fixed_mem_adviceBefore_iff (by simp [fixedAdvice])]
  simp only [hstorage.symm, hcall.symm, hceiling.symm, and_false, false_or, and_true]

/-- The text about a repeated operation is that of the most frequent entry. -/
theorem repetition_mem_iff {ops : List OperationCost} {total : Int} {storage calls : Bool}
    {text : Text} :
    text ∈ adviceBefore ops total storage calls ∧ IsRepetition text ↔
      ∃ worst, mostFrequent? (ops.filter (repetitionLimit < ·.count)) = some worst ∧
        text = repetitionAdvice worst := by
  rw [mem_adviceBefore_iff]
  constructor
  · rintro ⟨hmem, hrepetition⟩
    have hfixed : ∀ fixed ∈ fixedAdvice, text ≠ fixed := by
      intro fixed hfixed heq
      exact not_isRepetition hfixed (heq ▸ hrepetition)
    simp only [fixedAdvice, List.forall_mem_cons] at hfixed
    simpa only [hfixed, and_false, false_or, or_false] using hmem
  · rintro ⟨worst, hworst, rfl⟩
    exact ⟨.inr (.inl ⟨worst, hworst, rfl⟩), worst.name, worst.count, rfl⟩

theorem ite_sublist_singleton (c : Prop) [Decidable c] (advice : Text) :
    (if c then [advice] else []).Sublist [advice] := by
  by_cases h : c
  · rw [if_pos h]
  · rw [if_neg h]
    exact List.nil_sublist _

/-- The texts stand in a fixed order. -/
theorem adviceBefore_sublist (ops : List OperationCost) (total : Int) (storage calls : Bool) :
    ∃ name count, (adviceBefore ops total storage calls).Sublist
      [storageAdvice, repetitionText name count, callAdvice, ceilingAdvice, divisionAdvice] := by
  obtain ⟨name, count, hrepetition⟩ : ∃ name count,
      ((mostFrequent? (ops.filter (repetitionLimit < ·.count))).map
        repetitionAdvice).toList.Sublist [repetitionText name count] := by
    cases mostFrequent? (ops.filter (repetitionLimit < ·.count)) with
    | none => exact ⟨[], 0, List.nil_sublist _⟩
    | some worst => exact ⟨worst.name, worst.count, List.Sublist.refl _⟩
  refine ⟨name, count, ?_⟩
  exact ((((ite_sublist_singleton _ _).append hrepetition).append
    (ite_sublist_singleton _ _)).append (ite_sublist_singleton _ _)).append
      (ite_sublist_singleton _ _)

/-! ## Suggestions of a stream -/

/-- The suggestions are those that the stream and its total call for. -/
structure Profile.IsAdvised (stream : List Text) (p : Profile) : Prop where
  /-- They stand in a fixed order, and the general one once and last. -/
  ordered : ∃ front name count, p.suggestions = front ++ [generalAdvice] ∧ generalAdvice ∉ front ∧
    front.Sublist
      [storageAdvice, repetitionText name count, callAdvice, ceilingAdvice, divisionAdvice]
  repetition_iff : (∃ text ∈ p.suggestions, IsRepetition text) ↔
    ∃ opcode ∈ stream, 10 < stream.count opcode
  /-- The operation that is named as repeated is the most frequent one, with its exact count. -/
  repetition : ∀ text ∈ p.suggestions, IsRepetition text →
    ∃ opcode, IsMostFrequent stream opcode ∧
      text = repetitionText (operationName opcode) (stream.count opcode)
  ceiling_iff : ceilingAdvice ∈ p.suggestions ↔ 100000 < p.total
  division_iff : divisionAdvice ∈ p.suggestions ↔ ∃ opcode ∈ stream, ("div" : Text) <:+: opcode

/-- What a profile suggests is what its stream and its total call for. -/
theorem profile_isAdvised (h : profile pricing table stream = .ok p) : p.IsAdvised stream := by
  obtain ⟨-, -, -, hsuggest⟩ := profile_eq_ok_iff.1 h
  obtain ⟨storage, calls, -, -, htexts⟩ := suggest_eq_ok_iff.1 hsuggest
  have hmem : ∀ text, text ≠ generalAdvice →
      (text ∈ p.suggestions ↔ text ∈ adviceBefore p.operations p.total storage calls) := by
    intro text hne
    rw [htexts, List.mem_append, List.mem_singleton]
    exact or_iff_left hne
  have hrepeated : ∀ text, text ∈ p.suggestions ∧ IsRepetition text ↔
      ∃ worst, mostFrequent? (p.operations.filter (repetitionLimit < ·.count)) = some worst ∧
        text = repetitionAdvice worst := by
    intro text
    rw [← @repetition_mem_iff p.operations p.total storage calls]
    apply and_congr_left
    intro hrepetition
    apply hmem
    intro heq
    exact not_isRepetition (by simp [fixedAdvice]) (heq ▸ hrepetition)
  constructor
  case ordered =>
    obtain ⟨name, count, hsublist⟩ := adviceBefore_sublist p.operations p.total storage calls
    exact ⟨_, name, count, htexts, generalAdvice_notMem _ _ _ _, hsublist⟩
  case repetition_iff =>
    constructor
    · rintro ⟨text, htext⟩
      obtain ⟨worst, hworst, -⟩ := (hrepeated text).1 htext
      obtain ⟨hmost, hmore, -, -⟩ := worst_of_profile h hworst
      exact ⟨worst.opcode, hmost.mem, hmore⟩
    · rintro ⟨opcode, hopcode, hmore⟩
      obtain ⟨op, hop, -⟩ := exists_repeated h hopcode hmore
      obtain ⟨worst, hworst⟩ : ∃ worst,
          mostFrequent? (p.operations.filter (repetitionLimit < ·.count)) = some worst := by
        rw [← Option.ne_none_iff_exists']
        intro hnone
        rw [mostFrequent?_eq_none_iff.1 hnone] at hop
        cases hop
      exact ⟨_, (hrepeated _).2 ⟨worst, hworst, rfl⟩⟩
  case repetition =>
    intro text htext hrepetition
    obtain ⟨worst, hworst, rfl⟩ := (hrepeated text).1 ⟨htext, hrepetition⟩
    obtain ⟨hmost, -, hname, hcount⟩ := worst_of_profile h hworst
    exact ⟨worst.opcode, hmost, by rw [repetitionAdvice_eq, hname, hcount]⟩
  case ceiling_iff =>
    rw [hmem _ fixedAdvice_ne.2.2.1.2, ceilingAdvice_mem_iff, gasCeiling]
  case division_iff =>
    rw [hmem _ fixedAdvice_ne.2.2.2, divisionAdvice_mem_iff]
    simp only [← mem_opcodes_iff h, List.mem_map, exists_exists_and_eq_and]

/-- Two opcodes that occur eleven times each: the one that is first is named, although the other one
divides; and together they are above the ceiling. -/
theorem profile_isAdvised_tie :
    ∃ p, profile ⟨.literal 1 10, .literal 3500 1⟩ [("nop", 10000)]
        (List.replicate 11 ("nop" : Text) ++ List.replicate 11 ("i32.div" : Text)) = .ok p ∧
      repetitionText "Nop" 11 ∈ p.suggestions ∧ ceilingAdvice ∈ p.suggestions ∧
      divisionAdvice ∈ p.suggestions := by
  obtain ⟨p, hp⟩ : ∃ p, profile ⟨.literal 1 10, .literal 3500 1⟩ [("nop", 10000)]
      (List.replicate 11 ("nop" : Text) ++ List.replicate 11 ("i32.div" : Text)) = .ok p :=
    exists_of_isOk (by decide +kernel)
  have hadvised := profile_isAdvised hp
  have htotal : p.total = 110022 := (total_of_profile hp).trans (by decide +kernel)
  refine ⟨p, hp, ?_, hadvised.ceiling_iff.2 (by omega),
    hadvised.division_iff.2 ⟨"i32.div", by decide, by decide⟩⟩
  obtain ⟨text, htext, hrepetition⟩ := hadvised.repetition_iff.2 ⟨"nop", by decide, by decide⟩
  obtain ⟨opcode, hmost, rfl⟩ := hadvised.repetition text htext hrepetition
  have hopcode : opcode = "nop" ∨ opcode = "i32.div" := by
    rcases List.mem_append.1 hmost.mem with hmem | hmem
    · exact .inl (List.eq_of_mem_replicate hmem)
    · exact .inr (List.eq_of_mem_replicate hmem)
  rcases hopcode with rfl | rfl
  · have hname : operationName "nop" = "Nop" := by
      decide +kernel
    have hcount : (List.replicate 11 ("nop" : Text) ++ List.replicate 11 ("i32.div" : Text)).count
        ("nop" : Text) = 11 := by
      decide
    rw [hname, hcount] at htext
    exact htext
  · exact absurd (hmost.first "nop" (by decide) (by decide)) (by decide)

end ContractBuild.Gas
