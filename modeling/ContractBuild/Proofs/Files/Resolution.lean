import ContractBuild.Host.Files
import Mathlib.Data.List.Induction

/-!
# Resolution of paths

The successful resolutions of a path as an inductive relation: `Files.Leads f follow n base names
r` says that the names lead from `base` to `r` through at most `n` links. It has one constructor
for each thing that can stand at the next name, and it is the graph of `Files.walk`
(`walk_eq_ok_iff`), so a law of resolution is an induction on it.

Main statements: a path that leads to a directory leads there in every tree that keeps the
directories and links (`Files.locate_keeps`), and a path one name longer is resolved in the
directory that the shorter one leads to (`Files.locate_child`, `Files.locate_child_iff`).
-/

set_option autoImplicit false

namespace ContractBuild.Files

/-! ## Trees -/

/-- Every entry stands in a directory. -/
def IsTree (f : Files) : Prop :=
  ∀ q e, f.at? q = some e → f.at? q.dropLast = some .directory

/-- `g` has every entry of `f`, and only files may have another content. -/
structure Keeps (f g : Files) : Prop where
  directory : ∀ {q}, f.at? q = some .directory → g.at? q = some .directory
  link : ∀ {q t}, f.at? q = some (.link t) → g.at? q = some (.link t)
  file : ∀ {q c}, f.at? q = some (.file c) → ∃ c', g.at? q = some (.file c')

theorem Keeps.refl (f : Files) : f.Keeps f :=
  ⟨id, id, fun h => ⟨_, h⟩⟩

theorem Keeps.trans {f g k : Files} (hfg : f.Keeps g) (hgk : g.Keeps k) : f.Keeps k := by
  refine ⟨fun h => hgk.directory (hfg.directory h), fun h => hgk.link (hfg.link h), fun h => ?_⟩
  obtain ⟨c, hc⟩ := hfg.file h
  exact hgk.file hc

theorem Keeps.of_fewer {f g : Files} (h : ∀ q e, f.at? q = some e → g.at? q = some e) :
    f.Keeps g :=
  ⟨fun hq => h _ _ hq, fun hq => h _ _ hq, fun hq => ⟨_, h _ _ hq⟩⟩

/-- A ground position holds a directory in every tree. -/
theorem at?_of_isGround (f : Files) {p : Position} (h : p.isGround = true) :
    f.at? p = some .directory :=
  if_pos h

theorem not_isGround_of_at? {f : Files} {p : Position} {e : Option Entry} (h : f.at? p = e)
    (he : e ≠ some .directory) : p.isGround = false := by
  cases hg : p.isGround with
  | false => rfl
  | true => exact absurd (h.symm.trans (f.at?_of_isGround hg)) he

theorem at?_ofAnchor (f : Files) (a : Anchor) :
    f.at? (Position.ofAnchor a) = some .directory := by
  cases a <;> exact f.at?_of_isGround (by decide)

theorem isGround_dropLast {p : Position} (h : p.isGround = true) :
    Position.isGround p.dropLast = true := by
  unfold Position.isGround at *
  rw [Bool.or_eq_true, decide_eq_true_eq] at *
  rcases h with hup | rfl
  · refine .inl (List.all_eq_true.2 fun name hname => ?_)
    exact List.all_eq_true.1 hup name ((List.dropLast_prefix p).subset hname)
  · exact .inl rfl

/-- Whether the entries are those of a tree can be read off their list. -/
theorem isTree_of_entries {f : Files}
    (h : ∀ e ∈ f.entries, f.at? e.1.dropLast = some .directory) : f.IsTree := by
  intro q e hq
  cases hg : q.isGround with
  | true => exact f.at?_of_isGround (isGround_dropLast hg)
  | false =>
    rw [at?, hg, if_neg (by simp)] at hq
    obtain ⟨l, r, heq, -⟩ := List.lookup_eq_some_iff.1 hq
    exact h (q, e) (by rw [heq]; simp)

/-- The directory above a directory is one too. -/
theorem IsTree.at?_above {f : Files} (ht : f.IsTree) {p : Position}
    (h : f.at? p = some .directory) : f.at? p.above = some .directory := by
  unfold Position.above
  split
  · exact h
  · split
    · rename_i hup
      refine f.at?_of_isGround ?_
      rw [Position.isGround, List.all_append, hup]
      rfl
    · exact ht p _ h

theorem at?_ofLink {f : Files} {base : Position} (h : f.at? base = some .directory)
    (a : Anchor) : f.at? (Position.ofLink base a) = some .directory := by
  cases a with
  | here => exact h
  | root => exact f.at?_ofAnchor .root
  | doubleRoot => exact f.at?_ofAnchor .doubleRoot

/-- Below a position at which nothing stands there is nothing. -/
theorem IsTree.at?_eq_none_below {f : Files} (ht : f.IsTree) {p q : Position}
    (hp : f.at? p = none) (hpq : p <+: q) : f.at? q = none := by
  obtain ⟨names, rfl⟩ := hpq
  -- from the end: an entry one name further down would stand in a directory
  induction names using List.reverseRecOn with
  | nil => simpa using hp
  | append_singleton names name ih =>
    rw [← List.append_assoc]
    cases h : f.at? (p ++ names ++ [name]) with
    | none => rfl
    | some e =>
      have hd := ht _ _ h
      rw [List.dropLast_concat, ih] at hd
      cases hd

/-! ## Names that lead to a position -/

/-- A name that an entry can have. -/
def IsName (name : Text) : Prop :=
  name ≠ Position.up ∧ (Text.encode name).length ≤ nameLimit

/-- The names lead from a position to another one, through at most so many links. -/
inductive Leads (f : Files) (follow : Bool) : Nat → Position → List Text → Position → Prop
  | here {n : Nat} {base : Position} : Leads f follow n base [] base
  | up {n : Nat} {base r : Position} {rest : List Text} :
      Leads f follow n base.above rest r → Leads f follow n base (Position.up :: rest) r
  | vacant {n : Nat} {base : Position} {name : Text} :
      IsName name → f.at? (base ++ [name]) = none → Leads f follow n base [name] (base ++ [name])
  | enter {n : Nat} {base r : Position} {name : Text} {rest : List Text} :
      IsName name → f.at? (base ++ [name]) = some .directory →
      Leads f follow n (base ++ [name]) rest r → Leads f follow n base (name :: rest) r
  | file {n : Nat} {base : Position} {name : Text} {content : Bytes} :
      IsName name → f.at? (base ++ [name]) = some (.file content) →
      Leads f follow n base [name] (base ++ [name])
  | stay {n : Nat} {base : Position} {name target : Text} :
      follow = false → IsName name → f.at? (base ++ [name]) = some (.link target) →
      Leads f follow n base [name] (base ++ [name])
  | jump {n : Nat} {base r : Position} {name target : Text} {rest : List Text} :
      IsName name → f.at? (base ++ [name]) = some (.link target) →
      (rest ≠ [] ∨ follow = true) →
      Leads f follow n (Position.ofLink base (Path.ofText target).anchor)
        ((Path.ofText target).names ++ rest) r →
      Leads f follow (n + 1) base (name :: rest) r

theorem walk_nil (f : Files) (follow : Bool) (n : Nat) (base : Position) :
    f.walk follow n base [] = .ok base := by
  cases n <;> rfl

/-- One name, whatever the number of links that are left. -/
theorem walk_cons (f : Files) (follow : Bool) (n : Nat) (base : Position) (name : Text)
    (rest : List Text) :
    f.walk follow n base (name :: rest) =
      if name = Position.up then f.walk follow n base.above rest
      else if nameLimit < (Text.encode name).length then .error .nameTooLong
      else match f.at? (base ++ [name]) with
        | none => if rest.isEmpty then .ok (base ++ [name]) else .error .missing
        | some .directory => f.walk follow n (base ++ [name]) rest
        | some (.file _) => if rest.isEmpty then .ok (base ++ [name]) else .error .notDirectory
        | some (.link target) =>
          if rest.isEmpty && !follow then .ok (base ++ [name])
          else match n with
            | 0 => .error .tooManyLinks
            | n + 1 =>
              f.walk follow n (Position.ofLink base (Path.ofText target).anchor)
                ((Path.ofText target).names ++ rest) := by
  cases n <;> rfl

/-- The step of `leads_of_walk`: one name, with the rest of the names and the targets of links
already done. -/
theorem leads_cons_of_walk {f : Files} {follow : Bool} {n : Nat} {name : Text}
    {rest : List Text}
    (hrest : ∀ base r, f.walk follow n base rest = .ok r → f.Leads follow n base rest r)
    (hlinks : ∀ m, n = m + 1 → ∀ names base r, f.walk follow m base names = .ok r →
      f.Leads follow m base names r)
    {base r : Position} (h : f.walk follow n base (name :: rest) = .ok r) :
    f.Leads follow n base (name :: rest) r := by
  rw [walk_cons] at h
  split at h
  · rename_i hup
    subst hup
    exact .up (hrest _ _ h)
  · rename_i hup
    split at h
    · cases h
    · rename_i hlen
      have hname : IsName name := ⟨hup, Nat.le_of_not_lt hlen⟩
      split at h
      · rename_i hat
        split at h
        · rename_i hnil
          cases h
          obtain rfl := List.isEmpty_iff.1 hnil
          exact .vacant hname hat
        · cases h
      · rename_i hat
        exact .enter hname hat (hrest _ _ h)
      · rename_i hat
        split at h
        · rename_i hnil
          cases h
          obtain rfl := List.isEmpty_iff.1 hnil
          exact .file hname hat
        · cases h
      · rename_i target hat
        split at h
        · rename_i hstay
          cases h
          rw [Bool.and_eq_true, List.isEmpty_iff, Bool.not_eq_true'] at hstay
          obtain ⟨rfl, hf⟩ := hstay
          exact .stay hf hname hat
        · rename_i hgo
          cases n with
          | zero => cases h
          | succ m =>
            refine .jump hname hat ?_ (hlinks m rfl _ _ _ h)
            cases hf : follow with
            | true => exact .inr rfl
            | false => exact .inl fun hr => hgo (by rw [hr, hf]; rfl)

theorem leads_of_walk {f : Files} {follow : Bool} (n : Nat) :
    ∀ (names : List Text) (base r : Position), f.walk follow n base names = .ok r →
      f.Leads follow n base names r := by
  -- two inductions: a link replaces its name by others, so the names that are left can grow
  induction n using Nat.strongRecOn with
  | ind n ihn =>
    intro names
    induction names with
    | nil =>
      intro base r h
      rw [walk_nil] at h
      cases h
      exact .here
    | cons name rest ih =>
      intro base r h
      exact leads_cons_of_walk ih (fun m hm => ihn m (by omega)) h

/-- A name that an entry can have goes to what stands there. -/
theorem walk_name (f : Files) (follow : Bool) (n : Nat) (base : Position) {name : Text}
    (hname : IsName name) (rest : List Text) :
    f.walk follow n base (name :: rest) =
      match f.at? (base ++ [name]) with
      | none => if rest.isEmpty then .ok (base ++ [name]) else .error .missing
      | some .directory => f.walk follow n (base ++ [name]) rest
      | some (.file _) => if rest.isEmpty then .ok (base ++ [name]) else .error .notDirectory
      | some (.link target) =>
        if rest.isEmpty && !follow then .ok (base ++ [name])
        else match n with
          | 0 => .error .tooManyLinks
          | n + 1 =>
            f.walk follow n (Position.ofLink base (Path.ofText target).anchor)
              ((Path.ofText target).names ++ rest) := by
  rw [walk_cons, if_neg hname.1, if_neg (Nat.not_lt.2 hname.2)]

/-- A link that is followed costs one of the links that are left. -/
theorem walk_link {f : Files} {follow : Bool} {n : Nat} {base : Position} {name target : Text}
    {rest : List Text} (hname : IsName name) (hat : f.at? (base ++ [name]) = some (.link target))
    (hgo : rest ≠ [] ∨ follow = true) :
    f.walk follow (n + 1) base (name :: rest) =
      f.walk follow n (Position.ofLink base (Path.ofText target).anchor)
        ((Path.ofText target).names ++ rest) := by
  have hb : (rest.isEmpty && !follow) = false := by
    rcases hgo with hr | hf
    · rw [List.isEmpty_eq_false_iff.2 hr]; rfl
    · rw [hf, Bool.not_true, Bool.and_false]
  rw [walk_name _ _ _ _ hname, hat]
  simp only [hb, Bool.false_eq_true, if_false]

theorem walk_of_leads {f : Files} {follow : Bool} {n : Nat} {base r : Position}
    {names : List Text} (h : f.Leads follow n base names r) :
    f.walk follow n base names = .ok r := by
  induction h with
  | here => exact walk_nil ..
  | up _ ih => rw [walk_cons, if_pos rfl, ih]
  | vacant hname hat => rw [walk_name _ _ _ _ hname, hat]; rfl
  | enter hname hat _ ih => rw [walk_name _ _ _ _ hname, hat]; exact ih
  | file hname hat => rw [walk_name _ _ _ _ hname, hat]; rfl
  | stay hf hname hat => rw [walk_name _ _ _ _ hname, hat, hf]; rfl
  | jump hname hat hgo _ ih => rw [walk_link hname hat hgo, ih]

/-- The relation is the graph of the function. -/
theorem walk_eq_ok_iff {f : Files} {follow : Bool} {n : Nat} {base r : Position}
    {names : List Text} :
    f.walk follow n base names = .ok r ↔ f.Leads follow n base names r :=
  ⟨leads_of_walk n names base r, walk_of_leads⟩

theorem Leads.unique {f : Files} {follow : Bool} {n : Nat} {base r r' : Position}
    {names : List Text} (h : f.Leads follow n base names r)
    (h' : f.Leads follow n base names r') : r = r' := by
  have e := (walk_of_leads h).symm.trans (walk_of_leads h')
  cases e
  rfl

/-! ## Laws of resolution -/

/-- Where a resolution ends, a directory, another entry or nothing stands; nothing can stand only
directly in a directory. -/
theorem Leads.above_vacant {f : Files} (ht : f.IsTree) {follow : Bool} {n : Nat}
    {base r : Position} {names : List Text} (h : f.Leads follow n base names r)
    (hb : f.at? base = some .directory) (hr : f.at? r = none) :
    ∃ q name, r = q ++ [name] ∧ IsName name ∧ f.at? q = some .directory := by
  induction h with
  | here => rw [hb] at hr; cases hr
  | up _ ih => exact ih (ht.at?_above hb) hr
  | vacant hname _ => exact ⟨_, _, rfl, hname, hb⟩
  | enter _ hat _ ih => exact ih hat hr
  | file _ hat => rw [hat] at hr; cases hr
  | stay _ _ hat => rw [hat] at hr; cases hr
  | jump _ _ _ _ ih => exact ih (at?_ofLink hb _) hr

/-- A resolution that ends at an entry is the same in every tree that keeps the entries. -/
theorem Leads.keeps {f g : Files} (hk : f.Keeps g) {follow : Bool} {n : Nat} {base r : Position}
    {names : List Text} (h : f.Leads follow n base names r) (hr : f.at? r ≠ none) :
    g.Leads follow n base names r := by
  induction h with
  | here => exact .here
  | up _ ih => exact .up (ih hr)
  | vacant _ hat => exact absurd hat hr
  | enter hname hat _ ih => exact .enter hname (hk.directory hat) (ih hr)
  | file hname hat =>
    obtain ⟨c, hc⟩ := hk.file hat
    exact .file hname hc
  | stay hf hname hat => exact .stay hf hname (hk.link hat)
  | jump hname hat hgo _ ih => exact .jump hname (hk.link hat) hgo (ih hr)

/-- A resolution that ends where nothing stands ends there too once a directory stands there. -/
theorem Leads.filled {f g : Files} (ht : f.IsTree) (hk : f.Keeps g) {follow : Bool} {n : Nat}
    {base r : Position} {names : List Text} (h : f.Leads follow n base names r)
    (hb : f.at? base = some .directory) (hr : g.at? r = some .directory) :
    g.Leads follow n base names r := by
  induction h with
  | here => exact .here
  | up _ ih => exact .up (ih (ht.at?_above hb) hr)
  -- the end of the resolution, at which the directory now stands
  | vacant hname _ => exact .enter hname hr .here
  | enter hname hat _ ih => exact .enter hname (hk.directory hat) (ih hat hr)
  | file hname hat =>
    obtain ⟨c, hc⟩ := hk.file hat
    exact .file hname hc
  | stay hf hname hat => exact .stay hf hname (hk.link hat)
  | jump hname hat hgo _ ih => exact .jump hname (hk.link hat) hgo (ih (at?_ofLink hb _) hr)

/-- A resolution that follows its last link does not end at a link. -/
theorem Leads.not_link {f : Files} (ht : f.IsTree) {n : Nat} {base r : Position}
    {names : List Text} (h : f.Leads true n base names r) (hb : f.at? base = some .directory)
    (t : Text) : f.at? r ≠ some (.link t) := by
  induction h with
  | here => rw [hb]; simp
  | up _ ih => exact ih (ht.at?_above hb)
  | vacant _ hat => rw [hat]; simp
  | enter _ hat _ ih => exact ih hat
  | file _ hat => rw [hat]; simp
  | stay hf _ _ => cases hf
  | jump _ _ _ _ ih => exact ih (at?_ofLink hb _)

/-- A resolution in a tree with fewer entries ends too, or misses an entry on its way. -/
theorem Leads.fewer {f g : Files} (hg : ∀ q e, g.at? q = some e → f.at? q = some e)
    {follow : Bool} {n : Nat} {base r : Position} {names : List Text}
    (h : f.Leads follow n base names r) :
    (∃ r', g.walk follow n base names = .ok r') ∨ g.walk follow n base names = .error .missing := by
  -- at each name the entry is still there, and the resolution goes on, or it is gone: then the
  -- name is where it ends or where it misses an entry
  induction h with
  | here => exact .inl ⟨_, walk_nil ..⟩
  | up _ ih => rw [walk_cons, if_pos rfl]; exact ih
  | @vacant n base name hname hat =>
    have hgn : g.at? (base ++ [name]) = none := by
      cases hgat : g.at? (base ++ [name]) with
      | none => rfl
      | some e => rw [hg _ _ hgat] at hat; cases hat
    exact .inl ⟨_, walk_of_leads (.vacant hname hgn)⟩
  | @enter n base r name rest hname hat _ ih =>
    rw [walk_name _ _ _ _ hname]
    cases hgat : g.at? (base ++ [name]) with
    | none => cases rest <;> simp
    | some e => rw [hg _ _ hgat] at hat; cases hat; exact ih
  | @file n base name content hname hat =>
    cases hgat : g.at? (base ++ [name]) with
    | none => exact .inl ⟨_, walk_of_leads (.vacant hname hgat)⟩
    | some e =>
      rw [hg _ _ hgat] at hat
      cases hat
      exact .inl ⟨_, walk_of_leads (.file hname hgat)⟩
  | @stay n base name target hf hname hat =>
    cases hgat : g.at? (base ++ [name]) with
    | none => exact .inl ⟨_, walk_of_leads (.vacant hname hgat)⟩
    | some e =>
      rw [hg _ _ hgat] at hat
      cases hat
      exact .inl ⟨_, walk_of_leads (.stay hf hname hgat)⟩
  | @jump n base r name target rest hname hat hgo _ ih =>
    cases hgat : g.at? (base ++ [name]) with
    | none =>
      rw [walk_name _ _ _ _ hname, hgat]
      cases rest <;> simp
    | some e =>
      rw [hg _ _ hgat] at hat
      cases hat
      rw [walk_link hname hgat hgo]
      exact ih

/-- Where something stands at the end of a path, something stands too if a link at its end is not
followed. -/
theorem Leads.not_followed {f : Files} {n : Nat} {base r : Position} {names : List Text}
    (h : f.Leads true n base names r) {e : Entry} (hr : f.at? r = some e) :
    ∃ r' e', f.Leads false n base names r' ∧ f.at? r' = some e' := by
  induction h with
  | here => exact ⟨_, e, .here, hr⟩
  | up _ ih =>
    obtain ⟨r', e', h', hr'⟩ := ih hr
    exact ⟨r', e', .up h', hr'⟩
  | vacant _ hat => rw [hat] at hr; cases hr
  | enter hname hat _ ih =>
    obtain ⟨r', e', h', hr'⟩ := ih hr
    exact ⟨r', e', .enter hname hat h', hr'⟩
  | file hname hat => exact ⟨_, _, .file hname hat, hat⟩
  | stay hf _ _ => cases hf
  | @jump n base r name target rest hname hat _ _ ih =>
    cases rest with
    -- the link is the end of the path, and stands there itself
    | nil => exact ⟨_, _, .stay rfl hname hat, hat⟩
    | cons next rest =>
      obtain ⟨r', e', h', hr'⟩ := ih hr
      exact ⟨r', e', .jump hname hat (.inl (List.cons_ne_nil _ _)) h', hr'⟩

/-- It makes no difference whether the last link is followed if the path does not end at one. -/
theorem Leads.followed {f : Files} {n : Nat} {base r : Position} {names : List Text}
    (h : f.Leads false n base names r) (hr : ∀ t, f.at? r ≠ some (.link t)) :
    f.Leads true n base names r := by
  induction h with
  | here => exact .here
  | up _ ih => exact .up (ih hr)
  | vacant hname hat => exact .vacant hname hat
  | enter hname hat _ ih => exact .enter hname hat (ih hr)
  | file hname hat => exact .file hname hat
  | stay _ _ hat => exact absurd hat (hr _)
  | jump hname hat _ _ ih => exact .jump hname hat (.inr rfl) (ih hr)

/-! ## One more name -/

/-- A path with one more name is resolved in the directory that the names before it lead to. -/
theorem Leads.of_concat {f : Files} (ht : f.IsTree) {follow : Bool} {n : Nat}
    {base r : Position} {names : List Text} {name : Text}
    (h : f.Leads follow n base (names ++ [name]) r) (hb : f.at? base = some .directory) :
    ∃ q m, f.Leads true n base names q ∧ f.at? q = some .directory ∧
      f.Leads follow m q [name] r := by
  generalize hall : names ++ [name] = all at h
  -- a link puts its own names before the rest, so the induction is for every list that ends in
  -- the name; with no name before it, the resolution is that of the last name already
  induction h generalizing names with
  | here => cases names <;> cases hall
  | @up n base r rest h ih =>
    cases names with
    | nil => cases hall; exact ⟨base, n, .here, hb, .up h⟩
    | cons first names =>
      obtain ⟨rfl, rfl⟩ := List.cons.inj hall
      obtain ⟨q, m, hq, hqd, hr⟩ := ih (ht.at?_above hb) rfl
      exact ⟨q, m, .up hq, hqd, hr⟩
  | @vacant n base last hname hat =>
    obtain ⟨rfl, rfl⟩ := List.append_singleton_inj.1 (show names ++ [name] = [] ++ [last] from hall)
    exact ⟨base, n, .here, hb, .vacant hname hat⟩
  | @enter n base r first rest hname hat h ih =>
    cases names with
    | nil => cases hall; exact ⟨base, n, .here, hb, .enter hname hat h⟩
    | cons first names =>
      obtain ⟨rfl, rfl⟩ := List.cons.inj hall
      obtain ⟨q, m, hq, hqd, hr⟩ := ih hat rfl
      exact ⟨q, m, .enter hname hat hq, hqd, hr⟩
  | @file n base last content hname hat =>
    obtain ⟨rfl, rfl⟩ := List.append_singleton_inj.1 (show names ++ [name] = [] ++ [last] from hall)
    exact ⟨base, n, .here, hb, .file hname hat⟩
  | @stay n base last target hf hname hat =>
    obtain ⟨rfl, rfl⟩ := List.append_singleton_inj.1 (show names ++ [name] = [] ++ [last] from hall)
    exact ⟨base, n, .here, hb, .stay hf hname hat⟩
  | @jump n base r first target rest hname hat hgo h ih =>
    cases names with
    | nil => cases hall; exact ⟨base, n + 1, .here, hb, .jump hname hat hgo h⟩
    | cons first names =>
      obtain ⟨rfl, rfl⟩ := List.cons.inj hall
      obtain ⟨q, m, hq, hqd, hr⟩ := ih (at?_ofLink hb _) (List.append_assoc ..)
      exact ⟨q, m, .jump hname hat (.inr rfl) hq, hqd, hr⟩

/-- From a directory one more name leads to what stands there, unless it is a link that is
followed. -/
theorem Leads.concat {f : Files} {follow : Bool} {n : Nat} {base q : Position}
    {names : List Text} (h : f.Leads true n base names q) (hq : f.at? q = some .directory)
    {name : Text} (hname : IsName name)
    (hl : ∀ t, f.at? (q ++ [name]) = some (.link t) → follow = false) :
    f.Leads follow n base (names ++ [name]) (q ++ [name]) := by
  induction h with
  | @here n base =>
    cases hat : f.at? (base ++ [name]) with
    | none => exact .vacant hname hat
    | some e =>
      cases e with
      | directory => exact .enter hname hat .here
      | file content => exact .file hname hat
      | link target => exact .stay (hl target hat) hname hat
  | up _ ih => exact .up (ih hq hl)
  | vacant _ hat => rw [hat] at hq; cases hq
  | enter hfirst hat _ ih => exact .enter hfirst hat (ih hq hl)
  | file _ hat => rw [hat] at hq; cases hq
  | stay hf _ _ => cases hf
  | @jump n base r first target rest hfirst hat _ _ ih =>
    refine .jump hfirst hat (.inl (by simp)) ?_
    have hnames : (Path.ofText target).names ++ (rest ++ [name]) =
        (Path.ofText target).names ++ rest ++ [name] := (List.append_assoc ..).symm
    exact hnames ▸ ih hq hl

/-- One name leads to the entry of that name, unless that is a link that is followed. -/
theorem Leads.single {f : Files} {follow : Bool} {n : Nat} {base r : Position} {name : Text}
    (h : f.Leads follow n base [name] r) (hname : name ≠ Position.up)
    (hl : ∀ t, f.at? (base ++ [name]) = some (.link t) → follow = false) :
    IsName name ∧ r = base ++ [name] := by
  cases h with
  | up _ => exact absurd rfl hname
  | vacant hn _ => exact ⟨hn, rfl⟩
  | enter hn _ h =>
    cases h
    exact ⟨hn, rfl⟩
  | file hn _ => exact ⟨hn, rfl⟩
  | stay _ hn _ => exact ⟨hn, rfl⟩
  | jump _ hat hgo _ =>
    rcases hgo with hrest | hfollow
    · exact absurd rfl hrest
    · rw [hl _ hat] at hfollow
      cases hfollow

/-! ## Paths -/

/-- The system takes the text of a path: it has no null character and is not too long. -/
def Fits (p : Path) : Prop :=
  '\x00' ∉ p.text ∧ (Text.encode p.text).length < pathLimit

theorem locate_eq_ok_iff {f : Files} {follow : Bool} {p : Path} {r : Position} :
    f.locate follow p = .ok r ↔
      Fits p ∧ f.Leads follow linkLimit (Position.ofAnchor p.anchor) p.names r := by
  unfold locate Fits
  constructor
  · intro h
    split at h
    · cases h
    · rename_i hnull
      split at h
      · cases h
      · rename_i hlen
        split at h
        · rename_i q hq
          cases h
          exact ⟨⟨hnull, Nat.lt_of_not_le hlen⟩, leads_of_walk _ _ _ _ hq⟩
        · cases h
  · rintro ⟨⟨hnull, hlen⟩, h⟩
    rw [if_neg hnull, if_neg (Nat.not_le.2 hlen), walk_of_leads h]

/-- Only a null character makes a path no path at all. -/
theorem locate_embeddedNull_iff {f : Files} {follow : Bool} {p : Path} :
    f.locate follow p = .error .embeddedNull ↔ '\x00' ∈ p.text := by
  unfold locate
  by_cases hnull : '\x00' ∈ p.text
  · simp [hnull]
  · rw [if_neg hnull]
    constructor
    · intro h
      split at h
      · cases h
      · split at h <;> cases h
    · exact fun h => absurd h hnull

theorem locate_unique {f : Files} {follow : Bool} {p : Path} {q r : Position}
    (hq : f.locate follow p = .ok q) (hr : f.locate follow p = .ok r) : q = r :=
  Except.ok.inj (hq.symm.trans hr)

/-- A path that leads to an entry leads there in every tree that keeps the entries. -/
theorem locate_keeps {f g : Files} (hk : f.Keeps g) {follow : Bool} {p : Path} {r : Position}
    (h : f.locate follow p = .ok r) (hr : f.at? r ≠ none) : g.locate follow p = .ok r := by
  obtain ⟨hp, hl⟩ := locate_eq_ok_iff.1 h
  exact locate_eq_ok_iff.2 ⟨hp, hl.keeps hk hr⟩

/-- A path leads to a directory. -/
def DirectoryAt (f : Files) (p : Path) (r : Position) : Prop :=
  f.locate true p = .ok r ∧ f.at? r = some .directory

theorem DirectoryAt.keeps {f g : Files} (hk : f.Keeps g) {p : Path} {r : Position}
    (h : f.DirectoryAt p r) : g.DirectoryAt p r :=
  ⟨locate_keeps hk h.1 (by rw [h.2]; simp), hk.directory h.2⟩

theorem DirectoryAt.unique {f : Files} {p : Path} {q r : Position} (hq : f.DirectoryAt p q)
    (hr : f.DirectoryAt p r) : q = r :=
  locate_unique hq.1 hr.1

theorem isDirectory_eq_true_iff {f : Files} {p : Path} :
    f.isDirectory p = .ok true ↔ ∃ r, f.DirectoryAt p r := by
  unfold isDirectory find? DirectoryAt
  cases h : f.locate true p with
  | ok r => simp [Except.map]
  | error e =>
    cases e with
    | embeddedNull => simp [Except.map]
    | refused fault q => cases fault <;> simp [Except.map]

/-- Once a directory stands where a path leads, the path leads to it, whether or not its last name
is followed. -/
theorem DirectoryAt.of_filled {f g : Files} (ht : f.IsTree) (hk : f.Keeps g) {p : Path}
    {r : Position} (h : f.locate false p = .ok r) (hr : g.at? r = some .directory) :
    g.locate false p = .ok r ∧ g.DirectoryAt p r := by
  obtain ⟨hp, hl⟩ := locate_eq_ok_iff.1 h
  have hg := hl.filled ht hk (f.at?_ofAnchor _) hr
  have hf := hg.followed fun t h => by rw [hr] at h; cases h
  exact ⟨locate_eq_ok_iff.2 ⟨hp, hg⟩, locate_eq_ok_iff.2 ⟨hp, hf⟩, hr⟩

/-- A path that leads to a directory leads to the directory or to a link if its last name is not
followed. -/
theorem DirectoryAt.locate_false {f : Files} {p : Path} {r : Position} (h : f.DirectoryAt p r) :
    ∃ r', f.locate false p = .ok r' ∧ f.at? r' ≠ none := by
  obtain ⟨hp, hl⟩ := locate_eq_ok_iff.1 h.1
  obtain ⟨r', e, h', hr'⟩ := hl.not_followed h.2
  exact ⟨r', locate_eq_ok_iff.2 ⟨hp, h'⟩, by rw [hr']; simp⟩

/-! ## Children -/

theorem fits_of_child {p : Path} {name : Text} (h : Fits (p.child name)) : Fits p := by
  obtain ⟨hnull, hlen⟩ := h
  -- the text of a path without names is its anchor's, and no beginning of the child's
  rcases Path.text_child p name with ⟨hn, -⟩ | ⟨-, ht⟩
  · obtain ⟨anchor, names⟩ := p
    obtain rfl : names = [] := hn
    cases anchor <;> exact ⟨by decide, by decide⟩
  · rw [ht] at hnull hlen
    refine ⟨fun h => hnull (List.mem_append_left _ h), Nat.lt_of_le_of_lt ?_ hlen⟩
    rw [Text.encode, Text.encode, List.flatMap_append, List.length_append]
    exact Nat.le_add_right _ _

/-- The path of an entry is resolved in the directory that the path before it leads to. -/
theorem locate_child {f : Files} (ht : f.IsTree) {follow : Bool} {p : Path} {name : Text}
    {r : Position} (h : f.locate follow (p.child name) = .ok r) :
    ∃ q n, f.DirectoryAt p q ∧ f.Leads follow n q [name] r := by
  obtain ⟨hp, hl⟩ := locate_eq_ok_iff.1 h
  obtain ⟨q, n, hq, hqd, hr⟩ := hl.of_concat ht (f.at?_ofAnchor _)
  exact ⟨q, n, ⟨locate_eq_ok_iff.2 ⟨fits_of_child hp, hq⟩, hqd⟩, hr⟩

/-- From a directory the path of an entry leads to the entry, be it a link or not, and whatever else
there is in the tree. -/
theorem locate_child_iff {f : Files} (ht : f.IsTree) {p : Path} {q r : Position} {name : Text}
    (h : f.DirectoryAt p q) (hname : name ≠ Position.up) :
    f.locate false (p.child name) = .ok r ↔
      (Fits (p.child name) ∧ IsName name) ∧ r = q ++ [name] := by
  constructor
  · intro hr
    obtain ⟨q', n, hd, hlast⟩ := locate_child ht hr
    obtain rfl := hd.unique h
    obtain ⟨hn, rfl⟩ := hlast.single hname fun _ _ => rfl
    exact ⟨⟨(locate_eq_ok_iff.1 hr).1, hn⟩, rfl⟩
  · rintro ⟨⟨hp, hn⟩, rfl⟩
    exact locate_eq_ok_iff.2 ⟨hp, (locate_eq_ok_iff.1 h.1).2.concat h.2 hn fun _ _ => rfl⟩

/-- The path of an entry that is no link leads to the entry. -/
theorem eq_of_locate_child {f : Files} (ht : f.IsTree) {follow : Bool} {p : Path} {q r : Position}
    {name : Text} (hd : f.DirectoryAt p q) (h : f.locate follow (p.child name) = .ok r)
    (hname : name ≠ Position.up) (hl : ∀ t, f.at? (q ++ [name]) ≠ some (.link t)) :
    r = q ++ [name] := by
  obtain ⟨q', n, hd', hr⟩ := locate_child ht h
  obtain rfl := hd.unique hd'
  exact (hr.single hname fun t ht => absurd ht (hl t)).2

/-- A path that can be resolved can be asked about in a tree with fewer entries too. -/
theorem isThere_of_fewer {f g : Files} (hg : ∀ q e, g.at? q = some e → f.at? q = some e) {p : Path}
    {q : Position} (h : f.locate true p = .ok q) : ∃ there, g.isThere p = .ok there := by
  obtain ⟨⟨hnull, hlen⟩, hl⟩ := locate_eq_ok_iff.1 h
  unfold isThere find? locate
  rw [if_neg hnull, if_neg (Nat.not_le.2 hlen)]
  rcases hl.fewer hg with ⟨r, hr⟩ | hr <;> rw [hr] <;> exact ⟨_, rfl⟩

/-- The file that a path leads to can be read. -/
theorem read_of_find? {f : Files} {p : Path} {content : Bytes}
    (h : f.find? p = .ok (some (.file content))) : f.read p = .ok content := by
  unfold find? at h
  unfold read
  cases hl : f.locate true p with
  | ok q =>
    rw [hl] at h
    have hq : f.at? q = some (.file content) := Except.ok.inj h
    simp only [bind, Except.bind, hq]
  | error e =>
    rw [hl] at h
    cases e with
    | embeddedNull => cases h
    | refused fault q => cases fault <;> cases h

end ContractBuild.Files
