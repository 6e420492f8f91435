import ContractBuild.Text.Basic

/-!
# Lines

A line ends at any of ten separators, or at a carriage return with the line feed after it,
which together are one separator. A separator at the very end opens no further line, and the
empty text has no line at all.

The main statements are the equations of `lines` on its first characters, with an induction along
them (`linesInduction`), and `lines_join`: the lines of joined lines are those lines.
-/

set_option autoImplicit false

namespace ContractBuild.Text

/-- The characters that end a line. -/
def lineSeparators : List Char :=
  ['\n', '\r', '\x0b', '\x0c', '\x1c', '\x1d', '\x1e', '\u0085', '\u2028', '\u2029']

/-- Whether `c` ends a line. -/
def isSeparator (c : Char) : Bool :=
  lineSeparators.contains c

/-- A character in front of the lines of `rest`, where it belongs to the first of them. -/
def pushFirst (c : Char) : List Text → List Text
  | [] => [[c]]
  | line :: more => (c :: line) :: more

/-- One character in front of a text, given the lines of that text and whether it begins
with a line feed. -/
def lineStep (c : Char) (after : Bool × List Text) : Bool × List Text :=
  if c = '\r' && after.1 then (false, after.2)
  else if isSeparator c then (c = '\n', [] :: after.2)
  else (false, pushFirst c after.2)

/-- The lines of a text, without their separators. -/
def lines (t : Text) : List Text :=
  (t.foldr lineStep (false, [])).2

/-! ## Equations -/

theorem lineStep_fst (t : Text) :
    (t.foldr lineStep (false, [])).1 = (t.head? == some '\n') := by
  cases t with
  | nil => rfl
  | cons c rest =>
    simp only [List.foldr_cons, lineStep, List.head?_cons]
    by_cases h : c = '\n'
    · subst h; simp [isSeparator, lineSeparators]
    · have hb : (some c == some '\n') = false := by simpa using h
      simp only [hb]
      split
      · rfl
      · split
        · simp [h]
        · rfl

@[simp] theorem lines_nil : lines [] = [] := rfl

/-- A carriage return and the line feed after it are one separator. -/
theorem lines_crlf (t : Text) : lines ('\r' :: '\n' :: t) = [] :: lines t := by
  simp [lines, List.foldr_cons, lineStep, isSeparator, lineSeparators]

theorem lines_cons_separator {c : Char} (t : Text) (h : isSeparator c = true)
    (hr : c = '\r' → t.head? ≠ some '\n') : lines (c :: t) = [] :: lines t := by
  have hf := lineStep_fst t
  simp only [lines, List.foldr_cons]
  generalize t.foldr lineStep (false, []) = s at hf ⊢
  have hn : (decide (c = '\r') && s.1) = false := by
    by_cases hc : c = '\r'
    · simpa [hc, hf] using hr hc
    · simp [hc]
  simp [lineStep, hn, h]

theorem lines_cons_other {c : Char} (t : Text) (h : isSeparator c = false) :
    lines (c :: t) = pushFirst c (lines t) := by
  have hr : c ≠ '\r' := by rintro rfl; simp [isSeparator, lineSeparators] at h
  simp [lines, List.foldr_cons, lineStep, h, hr]

/-- A line feed ends the characters before it. -/
theorem lines_append_newline {line : Text} (hline : ∀ c ∈ line, isSeparator c = false) (t : Text) :
    lines (line ++ '\n' :: t) = line :: lines t := by
  induction line with
  | nil => exact lines_cons_separator t (by decide) (by simp)
  | cons c rest ih =>
    rw [List.cons_append, lines_cons_other _ (hline c List.mem_cons_self),
      ih fun d hd => hline d (List.mem_cons_of_mem _ hd)]
    rfl

/-- Induction along the equations of `lines`: a text is empty, or it begins with a carriage return
and a line feed, with another separator, or with a character that is none. -/
theorem linesInduction {motive : Text → Prop} (nil : motive [])
    (crlf : ∀ t, motive t → motive ('\r' :: '\n' :: t))
    (separator : ∀ c t, isSeparator c = true → (c = '\r' → t.head? ≠ some '\n') → motive t →
      motive (c :: t))
    (other : ∀ c t, isSeparator c = false → motive t → motive (c :: t)) : ∀ t, motive t
  | [] => nil
  | [c] =>
    match hc : isSeparator c with
    | true => separator c [] hc (fun _ => nofun) nil
    | false => other c [] hc nil
  | c :: d :: t =>
    if h : c = '\r' ∧ d = '\n' then
      h.1 ▸ h.2 ▸ crlf t (linesInduction nil crlf separator other t)
    else
      have hrest := linesInduction nil crlf separator other (d :: t)
      match hc : isSeparator c with
      | true => separator c (d :: t) hc (fun hr hd => h ⟨hr, Option.some.inj hd⟩) hrest
      | false => other c (d :: t) hc hrest

theorem lines_ne_nil {t : Text} (h : t ≠ []) : lines t ≠ [] := by
  cases t using linesInduction with
  | nil => exact absurd rfl h
  | crlf t =>
    rw [lines_crlf]
    exact List.cons_ne_nil _ _
  | separator c t hc hr =>
    rw [lines_cons_separator t hc hr]
    exact List.cons_ne_nil _ _
  | other c t hc =>
    rw [lines_cons_other t hc]
    cases lines t <;> exact List.cons_ne_nil _ _

theorem pushFirst_append (c : Char) {ls : List Text} (hne : ls ≠ []) (more : List Text) :
    pushFirst c (ls ++ more) = pushFirst c ls ++ more := by
  cases ls with
  | nil => exact absurd rfl hne
  | cons line rest => rfl

/-- The lines of two texts with a line feed between them are those of both, perhaps with an empty
line between, which the line feed ends. -/
theorem lines_append_newline_append (t u : Text) :
    ∃ blank, (blank = [] ∨ blank = [[]]) ∧
      lines (t ++ '\n' :: u) = lines t ++ blank ++ lines u := by
  have hnewline : lines ('\n' :: u) = [] :: lines u :=
    lines_append_newline (List.forall_mem_nil _) u
  induction t using linesInduction with
  | nil => exact ⟨[[]], .inr rfl, hnewline⟩
  | crlf t ih =>
    obtain ⟨blank, hblank, heq⟩ := ih
    refine ⟨blank, hblank, ?_⟩
    rw [List.cons_append, List.cons_append, lines_crlf, lines_crlf, heq]
    rfl
  | separator c t hc hr ih =>
    obtain ⟨blank, hblank, heq⟩ := ih
    rw [lines_cons_separator t hc hr, List.cons_append]
    cases t with
    | nil =>
      -- a carriage return at the end of the first text goes with the line feed after it
      by_cases hreturn : c = '\r'
      · subst hreturn
        exact ⟨[], .inl rfl, lines_crlf u⟩
      · refine ⟨[[]], .inr rfl, ?_⟩
        rw [lines_cons_separator _ hc fun h => absurd h hreturn, List.nil_append, hnewline]
        rfl
    | cons d t =>
      refine ⟨blank, hblank, ?_⟩
      rw [lines_cons_separator (d :: t ++ '\n' :: u) hc hr, heq]
      rfl
  | other c t hc ih =>
    obtain ⟨blank, hblank, heq⟩ := ih
    rw [List.cons_append, lines_cons_other _ hc, lines_cons_other _ hc]
    cases t with
    | nil => exact ⟨[], .inl rfl, by rw [List.nil_append, hnewline]; rfl⟩
    | cons d t =>
      refine ⟨blank, hblank, ?_⟩
      rw [heq, List.append_assoc, List.append_assoc,
        pushFirst_append c (lines_ne_nil (List.cons_ne_nil d t))]

/-! ## Lines and texts -/

/-- The text can be a line: it holds no separator. -/
def IsLine (t : Text) : Prop :=
  ∀ c ∈ t, isSeparator c = false

instance (t : Text) : Decidable (IsLine t) :=
  inferInstanceAs (Decidable (∀ c ∈ t, isSeparator c = false))

theorem IsLine.subset {s t : Text} (h : IsLine t) (hs : s ⊆ t) : IsLine s :=
  fun c hc => h c (hs hc)

theorem IsLine.append {s t : Text} (hs : IsLine s) (ht : IsLine t) : IsLine (s ++ t) := by
  intro c hc
  rcases List.mem_append.1 hc with hc | hc
  · exact hs c hc
  · exact ht c hc

theorem isLine_pushFirst {c : Char} (hc : isSeparator c = false) {ls : List Text}
    (h : ∀ l ∈ ls, IsLine l) : ∀ l ∈ pushFirst c ls, IsLine l := by
  have hcons : ∀ l, IsLine l → IsLine (c :: l) := by
    intro l hl d hd
    rcases List.mem_cons.1 hd with rfl | hd
    · exact hc
    · exact hl d hd
  cases ls with
  | nil =>
    intro l hl
    obtain rfl := List.mem_singleton.1 hl
    exact hcons [] fun d hd => by cases hd
  | cons first more =>
    intro l hl
    rcases List.mem_cons.1 hl with rfl | hl
    · exact hcons first (h first List.mem_cons_self)
    · exact h l (List.mem_cons_of_mem _ hl)

/-- No line of a text holds a separator. -/
theorem isLine_of_mem_lines {t line : Text} (h : line ∈ lines t) : IsLine line := by
  suffices hall : ∀ l ∈ (t.foldr lineStep (false, [])).2, IsLine l from hall line h
  clear h line
  induction t with
  | nil =>
    intro l hl
    cases hl
  | cons c rest ih =>
    intro l hl
    rw [List.foldr_cons, lineStep] at hl
    split at hl
    · exact ih l hl
    · split at hl
      · rcases List.mem_cons.1 hl with rfl | hl
        · intro d hd
          cases hd
        · exact ih l hl
      · rename_i hc
        exact isLine_pushFirst (by simpa using hc) ih l hl

theorem lines_of_isLine {line : Text} (h : IsLine line) (hne : line ≠ []) :
    lines line = [line] := by
  induction line with
  | nil => exact absurd rfl hne
  | cons c rest ih =>
    rw [lines_cons_other _ (h c List.mem_cons_self)]
    cases rest with
    | nil => rfl
    | cons d rest =>
      rw [ih (h.subset (List.subset_cons_self _ _)) (List.cons_ne_nil _ _)]
      rfl

/-- Lines that are joined by line feeds are the lines of the text, unless the last one is empty. -/
theorem lines_join {ls : List Text} (h : ∀ l ∈ ls, IsLine l) (hlast : ls.getLast? ≠ some []) :
    lines (join ['\n'] ls) = ls := by
  induction ls with
  | nil => rfl
  | cons line rest ih =>
    cases rest with
    | nil =>
      rw [join_singleton]
      exact lines_of_isLine (h line List.mem_cons_self) fun he => hlast (by rw [he]; rfl)
    | cons second rest =>
      rw [List.getLast?_cons_cons] at hlast
      rw [join_cons_cons, List.append_assoc, List.singleton_append,
        lines_append_newline (h line List.mem_cons_self),
        ih (fun l hl => h l (List.mem_cons_of_mem _ hl)) hlast]

end ContractBuild.Text
