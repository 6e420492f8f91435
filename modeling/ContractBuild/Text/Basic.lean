/-!
# Texts

The text every other module works on: a list of characters, with the few searches and cuts
that the line grammars need.

Main statements: `contains` decides the infix relation, `after?` undoes a concatenation, to trim a
text twice is to trim it once (`trim_trim`), and a text is cut at the first or the last place of a
character in one way only (`cut_first_inj`, `cut_last_inj`).
-/

set_option autoImplicit false

namespace ContractBuild

/-- A text is the list of its characters, so that a rule on it is a recursion on its data. -/
abbrev Text := List Char

/-- A string literal stands for the text of its characters. -/
instance : Coe String Text := ⟨String.toList⟩

namespace Text

/-- What holds of all characters of a text is found out by going through the text. This stands
before the way that goes through all characters that there are. -/
instance decidableAll (t : Text) (p : Char → Prop) [DecidablePred p] : Decidable (∀ c ∈ t, p c) :=
  List.decidableBAll p t

/-! ## Searching -/

/-- Whether `needle` stands somewhere in the text. -/
def contains (needle : Text) : Text → Bool
  | [] => needle.isPrefixOf []
  | c :: rest => needle.isPrefixOf (c :: rest) || contains needle rest

/-- The text after a leading `start`, if it begins so. -/
def after? (start t : Text) : Option Text :=
  if start.isPrefixOf t then some (t.drop start.length) else none

/-! ## Cutting -/

/-- The text without the characters of class `p` at its end. -/
def dropTrailing (p : Char → Bool) (t : Text) : Text :=
  (t.reverse.dropWhile p).reverse

/-- The text without the characters of class `p` at either end. -/
def trim (p : Char → Bool) (t : Text) : Text :=
  dropTrailing p (t.dropWhile p)

/-- The pieces between the occurrences of one character; there is always at least one. -/
def pieces (separator : Char) (t : Text) : List Text :=
  t.foldr (fun c acc =>
    if c = separator then [] :: acc
    else match acc with
      | [] => [[c]]
      | first :: more => (c :: first) :: more) [[]]

/-- The texts with `separator` between each two neighbours. -/
def join (separator : Text) : List Text → Text :=
  List.intercalate separator

/-- Every occurrence of one character replaced by another. -/
def replaceChar (old new : Char) (t : Text) : Text :=
  t.map fun c => if c = old then new else c

/-! ## Order -/

/-- Whether a text comes before another, or is equal to it, in the order of code points. -/
def precedes : Text → Text → Bool
  | [], _ => true
  | _ :: _, [] => false
  | c :: s, d :: t => if c = d then precedes s t else c.toNat < d.toNat

/-! ## Laws -/

@[simp] theorem join_nil (separator : Text) : join separator [] = [] := rfl

@[simp] theorem join_singleton (separator t : Text) : join separator [t] = t :=
  List.intercalate_singleton

theorem join_cons_cons (separator t u : Text) (rest : List Text) :
    join separator (t :: u :: rest) = t ++ separator ++ join separator (u :: rest) :=
  List.intercalate_cons_cons

/-- What is joined from two lists has one more separator between them. -/
theorem join_append (separator : Text) {ts us : List Text} (ht : ts ≠ []) (hu : us ≠ []) :
    join separator (ts ++ us) = join separator ts ++ separator ++ join separator us := by
  induction ts with
  | nil => exact absurd rfl ht
  | cons t rest ih =>
    cases rest with
    | nil =>
      cases us with
      | nil => exact absurd rfl hu
      | cons u us => rw [List.singleton_append, join_cons_cons, join_singleton]
    | cons second rest =>
      rw [List.cons_append, List.cons_append, join_cons_cons, join_cons_cons, ← List.cons_append,
        ih (List.cons_ne_nil _ _)]
      simp only [List.append_assoc]

/-- One more text is joined with one more separator. -/
theorem join_concat (separator : Text) {texts : List Text} (h : texts ≠ []) (t : Text) :
    join separator (texts ++ [t]) = join separator texts ++ separator ++ t := by
  rw [join_append separator h (List.cons_ne_nil _ _), join_singleton]

/-- Texts that are joined first and then joined with others are joined with them. -/
theorem join_join (separator : Text) (before : List Text) {ts : List Text} (hts : ts ≠ [])
    (after : List Text) :
    join separator (before ++ join separator ts :: after) =
      join separator (before ++ (ts ++ after)) := by
  have htail : join separator (join separator ts :: after) = join separator (ts ++ after) := by
    cases after with
    | nil => rw [join_singleton, List.append_nil]
    | cons next rest =>
      rw [join_cons_cons, join_append separator hts (List.cons_ne_nil _ _)]
  cases before with
  | nil => exact htail
  | cons first rest =>
    have hne : ts ++ after ≠ [] := List.append_ne_nil_of_left_ne_nil hts after
    rw [join_append separator (List.cons_ne_nil _ _) (List.cons_ne_nil _ _), htail,
      join_append separator (List.cons_ne_nil _ _) hne]

/-- Two separators between blocks are an empty text between them. -/
theorem join_blocks (separator : Text) {blocks : List (List Text)} (h : ∀ b ∈ blocks, b ≠ []) :
    join (separator ++ separator) (blocks.map (join separator)) =
      join separator (List.intercalate [[]] blocks) := by
  induction blocks with
  | nil => rfl
  | cons b rest ih =>
    cases rest with
    | nil => rw [List.map_cons, List.map_nil, join_singleton, List.intercalate_singleton]
    | cons next rest =>
      have hb : b ≠ [] := h b List.mem_cons_self
      have hrest := ih fun c hc => h c (List.mem_cons_of_mem _ hc)
      have hne : List.intercalate [[]] (next :: rest) ≠ [] := by
        have hnext : next ≠ [] := h next (List.mem_cons_of_mem _ List.mem_cons_self)
        cases rest with
        | nil => rwa [List.intercalate_singleton]
        | cons third rest =>
          rw [List.intercalate_cons_cons, List.append_assoc]
          exact List.append_ne_nil_of_left_ne_nil hnext _
      rw [List.map_cons, List.map_cons, join_cons_cons, ← List.map_cons, hrest,
        List.intercalate_cons_cons,
        join_append separator (List.append_ne_nil_of_left_ne_nil hb _) hne,
        join_append separator hb (List.cons_ne_nil _ _), join_singleton]
      simp only [List.append_nil, List.append_assoc]

/-- A text is cut at the first place of a character in one way only. -/
theorem cut_first_inj {c : Char} {s s' t t' : Text} (h : s ++ c :: t = s' ++ c :: t')
    (hs : c ∉ s) (hs' : c ∉ s') : s = s' ∧ t = t' := by
  -- By induction on the first part: if only one of the two has come to its end, the character
  -- stands in the other one.
  induction s generalizing s' with
  | nil =>
    cases s' with
    | nil => exact ⟨rfl, (List.cons.inj h).2⟩
    | cons d rest =>
      obtain ⟨rfl, -⟩ := List.cons.inj h
      exact absurd List.mem_cons_self hs'
  | cons d rest ih =>
    cases s' with
    | nil =>
      obtain ⟨rfl, -⟩ := List.cons.inj h
      exact absurd List.mem_cons_self hs
    | cons d' rest' =>
      obtain ⟨rfl, hrest⟩ := List.cons.inj h
      obtain ⟨rfl, rfl⟩ := ih hrest (fun hmem => hs (List.mem_cons_of_mem _ hmem))
        fun hmem => hs' (List.mem_cons_of_mem _ hmem)
      exact ⟨rfl, rfl⟩

/-- A text is cut at the last place of a character in one way only. -/
theorem cut_last_inj {c : Char} {s s' t t' : Text} (h : s ++ c :: t = s' ++ c :: t')
    (ht : c ∉ t) (ht' : c ∉ t') : s = s' ∧ t = t' := by
  have hback : t.reverse ++ c :: s.reverse = t'.reverse ++ c :: s'.reverse := by
    have hreverse := congrArg List.reverse h
    simpa using hreverse
  obtain ⟨hts, hss⟩ := cut_first_inj hback (by simpa using ht) (by simpa using ht')
  exact ⟨List.reverse_inj.1 hss, List.reverse_inj.1 hts⟩

theorem contains_iff {needle t : Text} : contains needle t = true ↔ needle <:+: t := by
  induction t with
  | nil => simp [contains]
  | cons c rest ih => simp [contains, ih, List.infix_cons_iff]

theorem after?_append (start t : Text) : after? start (start ++ t) = some t := by
  simp [after?]

theorem eq_append_of_after? {start t rest : Text} (h : after? start t = some rest) :
    t = start ++ rest := by
  unfold after? at h
  split at h
  · rename_i hp
    obtain ⟨u, rfl⟩ := List.isPrefixOf_iff_prefix.1 hp
    simp at h
    simp [h]
  · simp at h

theorem after?_eq_some_iff {start t rest : Text} :
    after? start t = some rest ↔ t = start ++ rest :=
  ⟨eq_append_of_after?, fun h => h ▸ after?_append start rest⟩

theorem head?_dropWhile (p : Char → Bool) (t : Text) {c : Char}
    (h : (t.dropWhile p).head? = some c) : p c = false := by
  have hnot := List.head?_dropWhile_not p t
  rw [h] at hnot
  exact hnot

/-- Nothing is dropped from a text whose first character is none of the class. -/
theorem dropWhile_eq_self {p : Char → Bool} {t : Text}
    (h : ∀ c, t.head? = some c → p c = false) : t.dropWhile p = t := by
  cases t with
  | nil => rfl
  | cons c rest => exact List.dropWhile_cons_of_neg (by rw [h c rfl]; simp)

theorem dropWhile_dropWhile (p : Char → Bool) (t : Text) :
    (t.dropWhile p).dropWhile p = t.dropWhile p :=
  dropWhile_eq_self fun _ => head?_dropWhile p t

theorem dropTrailing_isPrefixOf (p : Char → Bool) (t : Text) : dropTrailing p t <+: t := by
  have hsuffix : t.reverse.dropWhile p <:+ t.reverse := List.dropWhile_suffix p
  have hprefix := List.reverse_prefix.2 hsuffix
  rwa [List.reverse_reverse] at hprefix

/-- A text that was trimmed is not changed by trimming it once more. -/
theorem trim_trim (p : Char → Bool) (t : Text) : trim p (trim p t) = trim p t := by
  have hstart : (trim p t).dropWhile p = trim p t := by
    refine dropWhile_eq_self fun c hc => head?_dropWhile p t ?_
    obtain ⟨rest, hrest⟩ := dropTrailing_isPrefixOf p (t.dropWhile p)
    rw [← hrest]
    change (trim p t ++ rest).head? = some c
    rw [List.head?_append, hc]
    rfl
  show dropTrailing p ((trim p t).dropWhile p) = trim p t
  rw [hstart, trim, dropTrailing, dropTrailing, List.reverse_reverse, dropWhile_dropWhile]

/-- What is left of a text that is trimmed stands in it without a gap. -/
theorem infix_trim (p : Char → Bool) (t : Text) : trim p t <:+: t :=
  (dropTrailing_isPrefixOf p _).isInfix.trans (List.dropWhile_suffix p).isInfix

theorem trim_subset (p : Char → Bool) (t : Text) : trim p t ⊆ t :=
  (infix_trim p t).subset

end Text

end ContractBuild
