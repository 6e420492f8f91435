import ContractBuild.Text.Basic

/-!
# Patterns

A pattern takes characters from the beginning of a text. There may be several ways to do that: a run
of characters of a class may stop early, and an optional part may be left out. The ways are tried in
turn, until what follows in the pattern finds one too; `Pattern.ways` lists them all, the preferred
one first, and the first one that reaches the end of the text is the match.

Beside the search stands what a pattern means: the texts that it can take, with the groups that are
kept (`Pattern.Takes`). The search finds just these (`Pattern.mem_ways_iff`). If there is only one
set of groups for a text, the order of the search, and whether a run is lazy, makes no difference
(`Pattern.MatchesOneWay`); a recogniser that cuts the text in one go then stands for the search
(`Pattern.bind_whole?`).
-/

set_option autoImplicit false

namespace ContractBuild

/-- A pattern for the beginning of a text. -/
inductive Pattern
  /-- One of several words. -/
  | oneOf (words : List Text)
  /-- Characters of a class, so many at least: as few as possible, if the run is lazy, or else as
  many as possible. -/
  | run (lazy : Bool) (isIn : Char → Bool) (least : Nat)
  /-- One pattern and then another. -/
  | seq (first second : Pattern)
  /-- The pattern or, if nothing comes of that, nothing. -/
  | optional (p : Pattern)
  /-- The pattern; what it takes is kept under a number. -/
  | group (number : Nat) (p : Pattern)

/-- Groups that took part in a match, each with its text. -/
abbrev Groups := List (Nat × Text)

namespace Pattern

/-- A single word. -/
def word (w : Text) : Pattern :=
  oneOf [w]

/-- One character or more, up to the next `stop` at most. -/
def without (lazy : Bool) (stop : Char) : Pattern :=
  run lazy (· ≠ stop) 1

/-! ## The search -/

/-- A way to match a pattern: the groups, and what is left of the text. -/
structure Way where
  groups : Groups
  rest : Text
  deriving DecidableEq, Repr

/-- What is left of a text after no, one, two and more characters of a class. -/
def rests (isIn : Char → Bool) : Text → List Text
  | [] => [[]]
  | c :: t => (c :: t) :: (if isIn c then rests isIn t else [])

/-- All ways to match a text, in the order in which they are tried. -/
def ways : Pattern → Text → List Way
  | oneOf words, t => words.filterMap fun w => (Text.after? w t).map fun rest => ⟨[], rest⟩
  | run lazy isIn least, t =>
    let found := (rests isIn t).drop least
    (if lazy then found else found.reverse).map fun rest => ⟨[], rest⟩
  | seq first second, t =>
    (ways first t).flatMap fun v => (ways second v.rest).map fun w => ⟨v.groups ++ w.groups, w.rest⟩
  | optional p, t => ways p t ++ [⟨[], t⟩]
  | group number p, t =>
    (ways p t).map fun w =>
      ⟨(number, t.take (t.length - w.rest.length)) :: w.groups, w.rest⟩

/-- The groups of the first way that takes the whole text. -/
def whole? (p : Pattern) (t : Text) : Option Groups :=
  ((p.ways t).find? (·.rest.isEmpty)).map (·.groups)

/-- Whether there is a way to match the beginning of a text. -/
def begins (p : Pattern) (t : Text) : Bool :=
  !(p.ways t).isEmpty

/-! ## The texts -/

/-- The pattern can take just this text, with these groups. -/
def Takes : Pattern → Text → Groups → Prop
  | oneOf words, t, groups => t ∈ words ∧ groups = []
  | run _ isIn least, t, groups => (∀ c ∈ t, isIn c = true) ∧ least ≤ t.length ∧ groups = []
  | seq first second, t, groups =>
    ∃ s u g h, t = s ++ u ∧ groups = g ++ h ∧ Takes first s g ∧ Takes second u h
  | optional p, t, groups => Takes p t groups ∨ t = [] ∧ groups = []
  | group number p, t, groups => ∃ inner, groups = (number, t) :: inner ∧ Takes p t inner

variable {p first second : Pattern} {t : Text} {groups : Groups}

/-! What each kind of pattern takes, so that a proof opens one pattern and not those in it. -/

theorem takes_oneOf_iff {words : List Text} :
    (oneOf words).Takes t groups ↔ t ∈ words ∧ groups = [] :=
  Iff.rfl

theorem takes_run_iff {lazy : Bool} {isIn : Char → Bool} {least : Nat} :
    (run lazy isIn least).Takes t groups ↔
      (∀ c ∈ t, isIn c = true) ∧ least ≤ t.length ∧ groups = [] :=
  Iff.rfl

theorem takes_seq_iff : (seq first second).Takes t groups ↔
    ∃ s u g h, t = s ++ u ∧ groups = g ++ h ∧ first.Takes s g ∧ second.Takes u h :=
  Iff.rfl

theorem takes_optional_iff :
    (optional p).Takes t groups ↔ p.Takes t groups ∨ t = [] ∧ groups = [] :=
  Iff.rfl

theorem takes_group_iff {number : Nat} :
    (group number p).Takes t groups ↔ ∃ inner, groups = (number, t) :: inner ∧ p.Takes t inner :=
  Iff.rfl

/-- What is left after so many characters of a class at least. -/
theorem mem_drop_rests_iff {isIn : Char → Bool} {least : Nat} {rest : Text} :
    rest ∈ (rests isIn t).drop least ↔
      ∃ taken, t = taken ++ rest ∧ (∀ c ∈ taken, isIn c = true) ∧ least ≤ taken.length := by
  -- A first character of the class counts as one; it is left only if none is asked for.
  induction t generalizing least with
  | nil =>
    constructor
    · intro h
      obtain rfl := List.mem_singleton.1 (List.mem_of_mem_drop h)
      cases least with
      | zero => exact ⟨[], rfl, List.forall_mem_nil _, Nat.le_refl 0⟩
      | succ n =>
        rw [rests, List.drop_succ_cons, List.drop_nil] at h
        cases h
    · rintro ⟨taken, ht, -, hleast⟩
      obtain ⟨rfl, rfl⟩ := List.nil_eq_append_iff.1 ht
      obtain rfl := Nat.le_zero.1 hleast
      exact List.mem_cons_self
  | cons c t ih =>
    have hbehind : ∀ n, rest ∈ (if isIn c then rests isIn t else []).drop n ↔
        ∃ taken, t = taken ++ rest ∧ (∀ d ∈ c :: taken, isIn d = true) ∧ n ≤ taken.length := by
      intro n
      simp only [List.forall_mem_cons]
      by_cases hc : isIn c = true
      · rw [if_pos hc, ih]
        simp only [hc, true_and]
      · rw [if_neg hc, List.drop_nil]
        apply iff_of_false List.not_mem_nil
        rintro ⟨taken, -, ⟨hin, -⟩, -⟩
        exact hc hin
    cases least with
    | zero =>
      have hfirst := hbehind 0
      rw [List.drop_zero] at hfirst
      rw [rests, List.drop_zero, List.mem_cons, hfirst]
      constructor
      · rintro (rfl | ⟨taken, rfl, htaken, -⟩)
        · exact ⟨[], rfl, List.forall_mem_nil _, Nat.zero_le _⟩
        · exact ⟨c :: taken, rfl, htaken, Nat.zero_le _⟩
      · rintro ⟨taken, ht, htaken, -⟩
        cases taken with
        | nil => exact .inl ht.symm
        | cons d taken =>
          obtain ⟨rfl, rfl⟩ := List.cons.inj ht
          exact .inr ⟨taken, rfl, htaken, Nat.zero_le _⟩
    | succ n =>
      rw [rests, List.drop_succ_cons, hbehind]
      constructor
      · rintro ⟨taken, rfl, htaken, hn⟩
        exact ⟨c :: taken, rfl, htaken, Nat.succ_le_succ hn⟩
      · rintro ⟨taken, ht, htaken, hn⟩
        cases taken with
        | nil => cases hn
        | cons d taken =>
          obtain ⟨rfl, rfl⟩ := List.cons.inj ht
          exact ⟨taken, rfl, htaken, Nat.le_of_succ_le_succ hn⟩

/-- The ways are those to take a text that the pattern can take, and to leave the rest as it is. -/
theorem mem_ways_iff {w : Way} :
    w ∈ p.ways t ↔ ∃ taken, t = taken ++ w.rest ∧ p.Takes taken w.groups := by
  -- By induction on the pattern, for every text, since the second of two goes on with the rest.
  induction p generalizing t w with
  | oneOf words =>
    obtain ⟨groups, rest⟩ := w
    simp only [ways, takes_oneOf_iff, List.mem_filterMap, Option.map_eq_some_iff,
      Text.after?_eq_some_iff, Way.mk.injEq]
    constructor
    · rintro ⟨s, hs, rest', ht, rfl, rfl⟩
      exact ⟨s, ht, hs, rfl⟩
    · rintro ⟨s, ht, hs, rfl⟩
      exact ⟨s, hs, rest, ht, rfl, rfl⟩
  | run lazy isIn least =>
    obtain ⟨groups, rest⟩ := w
    have hmem : ∀ r, (r ∈ if lazy then (rests isIn t).drop least
        else ((rests isIn t).drop least).reverse) ↔ r ∈ (rests isIn t).drop least := by
      intro r
      cases lazy with
      | false => exact List.mem_reverse
      | true => exact Iff.rfl
    simp only [ways, takes_run_iff, List.mem_map, hmem, mem_drop_rests_iff, Way.mk.injEq]
    constructor
    · rintro ⟨r, ⟨taken, ht, htaken, hleast⟩, rfl, rfl⟩
      exact ⟨taken, ht, htaken, hleast, rfl⟩
    · rintro ⟨taken, ht, htaken, hleast, rfl⟩
      exact ⟨rest, ⟨taken, ht, htaken, hleast⟩, rfl, rfl⟩
  | seq first second ihFirst ihSecond =>
    obtain ⟨groups, rest⟩ := w
    simp only [ways, takes_seq_iff, List.mem_flatMap, List.mem_map, Way.mk.injEq]
    constructor
    · rintro ⟨v, hv, u, hu, rfl, rfl⟩
      obtain ⟨s, rfl, hs⟩ := ihFirst.1 hv
      obtain ⟨s', hrest, hs'⟩ := ihSecond.1 hu
      exact ⟨s ++ s', by rw [hrest, List.append_assoc], s, s', _, _, rfl, rfl, hs, hs'⟩
    · rintro ⟨taken, rfl, s, s', g, h, rfl, rfl, hs, hs'⟩
      exact ⟨⟨g, s' ++ rest⟩, ihFirst.2 ⟨s, List.append_assoc _ _ _, hs⟩, ⟨h, rest⟩,
        ihSecond.2 ⟨s', rfl, hs'⟩, rfl, rfl⟩
  | optional p ih =>
    rw [ways, List.mem_append, List.mem_singleton, ih]
    simp only [takes_optional_iff]
    constructor
    · rintro (⟨taken, ht, htakes⟩ | rfl)
      · exact ⟨taken, ht, .inl htakes⟩
      · exact ⟨[], rfl, .inr ⟨rfl, rfl⟩⟩
    · rintro ⟨taken, rfl, htakes | ⟨rfl, hgroups⟩⟩
      · exact .inl ⟨taken, rfl, htakes⟩
      · obtain ⟨groups, rest⟩ := w
        obtain rfl : groups = [] := hgroups
        exact .inr rfl
  | group number p ih =>
    obtain ⟨groups, rest⟩ := w
    simp only [ways, takes_group_iff, List.mem_map, Way.mk.injEq]
    constructor
    · rintro ⟨v, hv, rfl, rfl⟩
      obtain ⟨taken, rfl, htakes⟩ := ih.1 hv
      exact ⟨taken, rfl, v.groups, by simp, htakes⟩
    · rintro ⟨taken, rfl, inner, rfl, htakes⟩
      exact ⟨⟨inner, rest⟩, ih.2 ⟨taken, rfl, htakes⟩, by simp, rfl⟩

/-! ## Parts that keep nothing -/

/-- The pattern takes the texts with a property and keeps nothing. -/
def TakesJust (p : Pattern) (q : Text → Prop) : Prop :=
  ∀ t groups, p.Takes t groups ↔ q t ∧ groups = []

theorem takesJust_oneOf (words : List Text) : (oneOf words).TakesJust (· ∈ words) :=
  fun _ _ => Iff.rfl

theorem takesJust_word (w : Text) : (word w).TakesJust (· = w) := by
  intro t groups
  rw [word, takes_oneOf_iff, List.mem_singleton]

theorem takesJust_without (lazy : Bool) (stop : Char) :
    (without lazy stop).TakesJust fun t => t ≠ [] ∧ stop ∉ t := by
  intro t groups
  have hclass : (∀ c ∈ t, decide (c ≠ stop) = true) ↔ stop ∉ t := by
    simp only [decide_eq_true_eq]
    exact ⟨fun h hmem => h _ hmem rfl, fun h c hc heq => h (heq ▸ hc)⟩
  rw [without, takes_run_iff, hclass, Nat.one_le_iff_ne_zero, ne_eq, List.length_eq_zero_iff,
    and_left_comm, and_assoc]

namespace TakesJust

variable {q : Text → Prop} {number : Nat}

theorem group_iff (h : p.TakesJust q) :
    (group number p).Takes t groups ↔ q t ∧ groups = [(number, t)] := by
  rw [takes_group_iff]
  constructor
  · rintro ⟨inner, rfl, hinner⟩
    obtain ⟨hq, rfl⟩ := (h _ _).1 hinner
    exact ⟨hq, rfl⟩
  · rintro ⟨hq, rfl⟩
    exact ⟨[], rfl, (h _ _).2 ⟨hq, rfl⟩⟩

theorem seq_iff (h : first.TakesJust q) : (seq first second).Takes t groups ↔
    ∃ s u, q s ∧ t = s ++ u ∧ second.Takes u groups := by
  rw [takes_seq_iff]
  constructor
  · rintro ⟨s, u, g, rest, ht, rfl, hfirst, hsecond⟩
    obtain ⟨hq, rfl⟩ := (h _ _).1 hfirst
    exact ⟨s, u, hq, ht, hsecond⟩
  · rintro ⟨s, u, hq, ht, hsecond⟩
    exact ⟨s, u, [], groups, ht, rfl, (h _ _).2 ⟨hq, rfl⟩, hsecond⟩

theorem seq_group_iff (h : first.TakesJust q) : (seq (group number first) second).Takes t groups ↔
    ∃ s u rest, q s ∧ t = s ++ u ∧ groups = (number, s) :: rest ∧ second.Takes u rest := by
  rw [takes_seq_iff]
  constructor
  · rintro ⟨s, u, g, rest, ht, rfl, hfirst, hsecond⟩
    obtain ⟨hq, rfl⟩ := h.group_iff.1 hfirst
    exact ⟨s, u, rest, hq, ht, rfl, hsecond⟩
  · rintro ⟨s, u, rest, hq, ht, rfl, hsecond⟩
    exact ⟨s, u, [(number, s)], rest, ht, rfl, h.group_iff.2 ⟨hq, rfl⟩, hsecond⟩

end TakesJust

theorem takes_word_seq_iff {w : Text} {p : Pattern} {t : Text} {groups : Groups} :
    (seq (word w) p).Takes t groups ↔ ∃ u, t = w ++ u ∧ p.Takes u groups := by
  rw [(takesJust_word w).seq_iff]
  constructor
  · rintro ⟨_, u, rfl, ht, hp⟩
    exact ⟨u, ht, hp⟩
  · rintro ⟨u, ht, hp⟩
    exact ⟨w, u, rfl, ht, hp⟩

theorem takes_optional_word_seq_iff {w : Text} {p : Pattern} {t : Text} {groups : Groups} :
    (seq (optional (word w)) p).Takes t groups ↔ ∃ u, (t = u ∨ t = w ++ u) ∧ p.Takes u groups := by
  rw [takes_seq_iff]
  constructor
  · rintro ⟨s, u, g, rest, rfl, rfl, hword | ⟨rfl, rfl⟩, hp⟩
    · obtain ⟨rfl, rfl⟩ := (takesJust_word w _ _).1 hword
      exact ⟨u, .inr rfl, hp⟩
    · exact ⟨u, .inl rfl, hp⟩
  · rintro ⟨u, rfl | rfl, hp⟩
    · exact ⟨[], t, [], groups, rfl, rfl, .inr ⟨rfl, rfl⟩, hp⟩
    · exact ⟨w, u, [], groups, rfl, rfl, .inl ((takesJust_word w _ _).2 ⟨rfl, rfl⟩), hp⟩

/-! ## The match -/

theorem begins_iff : p.begins t = true ↔ ∃ taken rest groups, t = taken ++ rest ∧
    p.Takes taken groups := by
  have hways : p.begins t = true ↔ ∃ w, w ∈ p.ways t := by
    rw [begins, Bool.not_eq_true', List.isEmpty_eq_false_iff_exists_mem]
  rw [hways]
  constructor
  · rintro ⟨w, hw⟩
    obtain ⟨taken, ht, htakes⟩ := mem_ways_iff.1 hw
    exact ⟨taken, w.rest, w.groups, ht, htakes⟩
  · rintro ⟨taken, rest, groups, ht, htakes⟩
    exact ⟨⟨groups, rest⟩, mem_ways_iff.2 ⟨taken, ht, htakes⟩⟩

/-- A text has a match just if the pattern can take it, and the match is one of the possible
ones. -/
theorem whole?_cases : (∃ groups, p.whole? t = some groups ∧ p.Takes t groups) ∨
    p.whole? t = none ∧ ∀ groups, ¬ p.Takes t groups := by
  unfold whole?
  cases hfind : (p.ways t).find? (·.rest.isEmpty) with
  | none =>
    -- a way that takes all of the text would be in the list, and the search would find it
    refine .inr ⟨rfl, fun groups htakes => ?_⟩
    have hway : (⟨groups, []⟩ : Way) ∈ p.ways t :=
      mem_ways_iff.2 ⟨t, (List.append_nil t).symm, htakes⟩
    exact List.find?_eq_none.1 hfind _ hway rfl
  | some w =>
    obtain ⟨taken, ht, htakes⟩ := mem_ways_iff.1 (List.mem_of_find?_eq_some hfind)
    have hend := List.find?_some hfind
    have hrest : w.rest = [] := List.isEmpty_iff.1 hend
    rw [hrest, List.append_nil] at ht
    exact .inl ⟨w.groups, rfl, ht ▸ htakes⟩

/-- The pattern matches a text with the groups of some parts just if these parts are written in the
text, which can be so for one choice of parts only; no way to take the text has other groups, so the
order of the search makes no difference. -/
structure MatchesOneWay {α : Type} (p : Pattern) (t : Text) (groupsOf : α → Groups)
    (isWritten : α → Prop) : Prop where
  match_iff : ∀ a, p.whole? t = some (groupsOf a) ↔ isWritten a
  unique : ∀ a b, isWritten a → isWritten b → a = b
  of_takes : ∀ groups, p.Takes t groups → ∃ a, isWritten a ∧ groups = groupsOf a

section OneWay

variable {α : Type} {groupsOf : α → Groups} {ofGroups? : Groups → Option α} {isWritten : α → Prop}
  {answer : Option α}

/-- If a recogniser answers with the parts that are written in a text, and the pattern takes the
text with the groups of such parts, then the match has the groups of the answer. -/
theorem whole?_eq_map (htakes : ∀ groups, p.Takes t groups ↔ ∃ a, isWritten a ∧ groups = groupsOf a)
    (hanswer : ∀ a, answer = some a ↔ isWritten a) : p.whole? t = answer.map groupsOf := by
  rcases whole?_cases (p := p) (t := t) with ⟨groups, hwhole, hgroups⟩ | ⟨hwhole, hnone⟩
  · obtain ⟨a, ha, rfl⟩ := (htakes groups).1 hgroups
    rw [hwhole, (hanswer a).2 ha]
    rfl
  · cases answer with
    | none => exact hwhole
    | some a => exact absurd ((htakes _).2 ⟨a, (hanswer a).1 rfl, rfl⟩) (hnone _)

/-- The answer can be had back from the match, if parts can be had back from their groups. -/
theorem bind_whole? (hback : ∀ a, ofGroups? (groupsOf a) = some a)
    (hwhole : p.whole? t = answer.map groupsOf) : (p.whole? t).bind ofGroups? = answer := by
  rw [hwhole]
  cases answer with
  | none => rfl
  | some a => exact hback a

theorem matchesOneWay_of_answer (hback : ∀ a, ofGroups? (groupsOf a) = some a)
    (htakes : ∀ groups, p.Takes t groups ↔ ∃ a, isWritten a ∧ groups = groupsOf a)
    (hanswer : ∀ a, answer = some a ↔ isWritten a) : p.MatchesOneWay t groupsOf isWritten where
  match_iff a := by
    -- parts with the same groups are the same, since they are had back from the groups
    have hinj : Function.Injective groupsOf := by
      intro a b hab
      have hsome := congrArg ofGroups? hab
      rw [hback, hback] at hsome
      exact Option.some.inj hsome
    rw [whole?_eq_map htakes hanswer, Option.map_eq_some_iff, ← hanswer]
    constructor
    · rintro ⟨b, hb, hgroups⟩
      rw [hb, hinj hgroups]
    · intro ha
      exact ⟨a, ha, rfl⟩
  unique a b ha hb := by
    have hsome := (hanswer a).2 ha
    rw [(hanswer b).2 hb] at hsome
    exact (Option.some.inj hsome).symm
  of_takes groups h := (htakes groups).1 h

end OneWay

end Pattern

end ContractBuild
