import Mathlib.Data.List.Nodup
import Mathlib.Data.List.Perm.Basic
import Mathlib.Data.List.Perm.Subperm
import Mathlib.Logic.Relation
import ShipTelemetry.Files.Retention
import ShipTelemetry.Proofs.Files.Walk

/-!
# What a sweep comes to

A sweep lists a directory and goes on to the directories that its entries lead to, so it comes
to all directories that are opened one after the other from the first one on
(`reaches_of_mem_visits`, `mem_visits_of_reaches`), and it judges every entry there that leads to
no directory (`contents_perm`).  None of this depends on the depth that bounds a sweep: with each
step down there is one place less to go, and with each link one link less to follow
(`height_lt`), so the bound is never met.

An entry that leads to a file, with however many links to follow, leads to no directory with any
other number of links (`directory?_eq_none`).  So nothing that a sweep may remove is on the
way to anything else.
-/

namespace ShipTelemetry.Files.Tree

variable {t : Tree} {c d here child below root : Candidate} {place : Place} {name : String}

/-! ## Entries and where they lead -/

/-- An entry leads to a place: a link as far as its path does, anything else to itself. -/
inductive Resolves (t : Tree) : Candidate → Candidate → Prop
  | directory {c : Candidate} {readable : Bool} :
      t.get? c.place = some (.directory readable) → Resolves t c c
  | file {c : Candidate} {content : String} {modified : Option Moment} {removable : Bool} :
      t.get? c.place = some (.file content modified removable) → Resolves t c c
  | link {place last : Place} {fewer left : Nat} {target : String} :
      t.get? place = some (.link target) →
        t.Leads fewer (linkBase place.dropLast target) (Path.ofText target) last left →
          Resolves t ⟨place, fewer + 1⟩ ⟨last, left⟩

theorem resolve_eq_found_iff :
    t.resolve c.links c.place = .ok (.found d.place d.links) ↔ t.Resolves c d := by
  obtain ⟨place, links⟩ := c
  obtain ⟨last, left⟩ := d
  constructor
  · intro h
    unfold resolve at h
    cases hentry : t.get? place with
    | none => simp [hentry] at h
    | some entry =>
      cases entry with
      | directory readable =>
        simp only [hentry, Except.ok.injEq, Walk.found.injEq] at h
        obtain ⟨rfl, rfl⟩ := h
        exact .directory hentry
      | file content modified removable =>
        simp only [hentry, Except.ok.injEq, Walk.found.injEq] at h
        obtain ⟨rfl, rfl⟩ := h
        exact .file hentry
      | link target =>
        cases links with
        | zero => simp [hentry] at h
        | succ fewer =>
          simp only [hentry] at h
          exact .link hentry (walk_eq_found_iff.1 h)
  · intro h
    cases h with
    | directory hentry => simp [resolve, hentry]
    | file hentry => simp [resolve, hentry]
    | link hentry hleads => simp [resolve, hentry, walk_eq_found_iff.2 hleads]

theorem directory?_eq_some_iff :
    t.directory? c = some d ↔
      t.Resolves c d ∧ ∃ readable, t.get? d.place = some (.directory readable) := by
  constructor
  · intro h
    unfold directory? at h
    split at h
    next place links hresolve =>
      split at h
      next readable hentry =>
        cases h
        exact ⟨resolve_eq_found_iff.1 hresolve, readable, hentry⟩
      next => cases h
    next => cases h
  · rintro ⟨hresolves, readable, hentry⟩
    unfold directory?
    rw [resolve_eq_found_iff.2 hresolves]
    simp [hentry]

theorem modified?_eq_some_iff {modified : Moment} :
    t.modified? c = some modified ↔
      ∃ d, t.Resolves c d ∧
        ∃ content removable, t.get? d.place = some (.file content (some modified) removable) := by
  constructor
  · intro h
    unfold modified? at h
    split at h
    next place links hresolve =>
      split at h
      next content modified removable hentry =>
        have hresolves := resolve_eq_found_iff (d := ⟨place, links⟩).1 hresolve
        exact ⟨_, hresolves, content, removable, h ▸ hentry⟩
      next => cases h
    next => cases h
  · rintro ⟨d, hresolves, content, removable, hentry⟩
    unfold modified?
    rw [resolve_eq_found_iff.2 hresolves]
    simp [hentry]

/-! ### Entries that lead to files -/

/-- Where a directory is found there are only directories above it. -/
theorem Resolves.grounded {readable : Bool} (h : t.Resolves c d)
    (hhere : t.Grounded c.place.dropLast) (hd : t.get? d.place = some (.directory readable)) :
    t.Grounded d.place := by
  cases h with
  | directory hentry => exact hhere.of_dropLast hentry
  | file hentry =>
    rw [hentry] at hd
    cases hd
  | link _ hleads => exact hleads.grounded (hhere.linkBase _) hd

/-- What leads to a file, with some number of links to follow, leads to nothing else with any
other number. -/
theorem Resolves.eq_of_file {links : Nat} {content : String} {modified : Option Moment}
    {removable : Bool} (h : t.Resolves ⟨place, links⟩ c) (hhere : t.Grounded place.dropLast)
    (hfile : t.get? c.place = some (.file content modified removable)) {links' : Nat}
    (hother : t.Resolves ⟨place, links'⟩ d) : d.place = c.place := by
  cases h with
  | directory hentry =>
    rw [hfile] at hentry
    cases hentry
  | file hentry =>
    cases hother with
    | directory => rfl
    | file => rfl
    | link hlink =>
      rw [hentry] at hlink
      cases hlink
  | link hentry hleads =>
    cases hother with
    | directory hdirectory =>
      rw [hentry] at hdirectory
      cases hdirectory
    | file hplain =>
      rw [hentry] at hplain
      cases hplain
    | link hentry' hleads' =>
      rw [hentry, Option.some.injEq, Entry.link.injEq] at hentry'
      subst hentry'
      rw [← List.append_nil (Path.ofText _)] at hleads'
      exact hleads.eq_of_append (hhere.linkBase _) hfile hleads'

/-- An entry that leads to a file leads to no directory. -/
theorem directory?_eq_none {links : Nat} {modified : Moment}
    (h : t.modified? ⟨place, links⟩ = some modified) (hhere : t.Grounded place.dropLast)
    (links' : Nat) : t.directory? ⟨place, links'⟩ = none := by
  obtain ⟨file, hresolves, content, removable, hfile⟩ := modified?_eq_some_iff.1 h
  rw [Option.eq_none_iff_forall_ne_some]
  intro below hbelow
  obtain ⟨hother, readable, hdirectory⟩ := directory?_eq_some_iff.1 hbelow
  rw [hresolves.eq_of_file hhere hfile hother, hfile] at hdirectory
  cases hdirectory

/-! ## Directories and their entries -/

theorem isSome_get?_iff (hplace : place ≠ []) :
    (t.get? place).isSome ↔ place ∈ t.entries.map Prod.fst := by
  unfold get?
  rw [if_neg hplace, Option.isSome_map, List.find?_isSome]
  simp

/-- The last name of a place in a directory. -/
theorem lastName_eq_some_iff {other : Place} :
    (if other.dropLast = place then other.getLast? else none) = some name ↔
      other = place ++ [name] := by
  constructor
  · intro h
    split at h
    next hfront => rw [← hfront, List.dropLast_append_getLast? _ h]
    next => cases h
  · rintro rfl
    simp

theorem mem_names_iff : name ∈ t.names place ↔ (t.get? (place ++ [name])).isSome := by
  rw [isSome_get?_iff (by simp)]
  simp only [names, List.mem_filterMap, lastName_eq_some_iff, List.mem_map]

theorem mem_children_iff :
    child ∈ t.children here ↔
      t.get? here.place = some (.directory true) ∧
        ∃ name, (t.get? (here.place ++ [name])).isSome ∧
          child = ⟨here.place ++ [name], here.links⟩ := by
  unfold children
  split
  next hopen => simp only [hopen, List.mem_map, mem_names_iff, true_and, eq_comm]
  next hclosed => exact ⟨fun h => absurd h List.not_mem_nil, fun h => absurd h.1 hclosed⟩

/-- The second directory is opened from the first: an entry of the first leads to it. -/
def Opens (t : Tree) (here below : Candidate) : Prop :=
  ∃ child ∈ t.children here, t.directory? child = some below

theorem Opens.grounded (h : t.Opens here below) (hhere : t.Grounded here.place) :
    t.Grounded below.place := by
  obtain ⟨child, hchild, hbelow⟩ := h
  obtain ⟨-, name, -, rfl⟩ := mem_children_iff.1 hchild
  obtain ⟨hresolves, readable, hdirectory⟩ := directory?_eq_some_iff.1 hbelow
  refine hresolves.grounded ?_ hdirectory
  rwa [List.dropLast_concat]

/-! ## How deep a sweep goes -/

/-- A place with directories above it has no more names than the tree has entries. -/
theorem Grounded.length_le (h : t.Grounded place) : place.length ≤ t.entries.length := by
  let fronts : List Place := (List.range place.length).map fun i => place.take (i + 1)
  have hlength : ∀ i ∈ List.range place.length, (place.take (i + 1)).length = i + 1 := by
    intro i hi
    rw [List.length_take, Nat.min_eq_left (List.mem_range.1 hi)]
  have hdistinct : fronts.Nodup := by
    refine List.nodup_range.map_on fun i hi j hj heq => ?_
    have hsame := congrArg List.length heq
    rw [hlength i hi, hlength j hj] at hsame
    exact Nat.succ.inj hsame
  have hentries : fronts ⊆ t.entries.map Prod.fst := by
    intro front hfront
    obtain ⟨i, hi, rfl⟩ := List.mem_map.1 hfront
    obtain ⟨readable, hdirectory⟩ := h (place.take (i + 1)) (List.take_prefix _ _)
    have hne : place.take (i + 1) ≠ [] := List.ne_nil_of_length_eq_add_one (hlength i hi)
    rw [← isSome_get?_iff hne, hdirectory]
    rfl
  have hcount := (List.subperm_of_subset hdistinct hentries).length_le
  simpa [fronts] using hcount

/-- A bound for the directories that can still be opened one below the other from here. -/
def height (t : Tree) (c : Candidate) : Nat :=
  c.links * (t.entries.length + 1) + (t.entries.length + 1 - c.place.length)

theorem height_lt (h : t.Opens here below) (hhere : t.Grounded here.place) :
    t.height below < t.height here := by
  have hbelow := (h.grounded hhere).length_le
  have hlength := hhere.length_le
  obtain ⟨child, hchild, hopened⟩ := h
  obtain ⟨-, name, -, rfl⟩ := mem_children_iff.1 hchild
  obtain ⟨hresolves, -⟩ := directory?_eq_some_iff.1 hopened
  unfold height
  generalize t.entries.length = n at hbelow hlength ⊢
  obtain ⟨place, links⟩ := here
  dsimp only at hlength hresolves ⊢
  -- one name more, or one link less
  generalize hstart : place ++ [name] = start at hresolves
  cases hresolves with
  | directory =>
    dsimp only at hbelow ⊢
    rw [← hstart, List.length_append, List.length_singleton] at hbelow ⊢
    omega
  | file =>
    dsimp only at hbelow ⊢
    rw [← hstart, List.length_append, List.length_singleton] at hbelow ⊢
    omega
  | @link _ last fewer left _ _ hleads =>
    dsimp only at hbelow ⊢
    have hfewer : left * (n + 1) ≤ fewer * (n + 1) := Nat.mul_le_mul_right _ hleads.links_le
    rw [Nat.add_mul, Nat.one_mul]
    omega

theorem height_pos (hc : t.Grounded c.place) : 0 < t.height c := by
  have hlength := hc.length_le
  unfold height
  omega

theorem height_le_reach (hlinks : c.links ≤ maxLinks) : t.height c ≤ t.reach := by
  have hproduct : c.links * (t.entries.length + 1) ≤ maxLinks * (t.entries.length + 1) :=
    Nat.mul_le_mul_right _ hlinks
  unfold height reach
  rw [Nat.add_mul, Nat.one_mul]
  omega

/-! ## Everything below a directory -/

/-- The directories that a sweep lists, down to a depth, in the order in which it comes to
them. -/
def visits (t : Tree) : Nat → Candidate → List Candidate
  | 0, _ => []
  | depth + 1, c =>
      c :: (t.children c).flatMap fun child => (t.directory? child).elim [] (t.visits depth)

/-- Everything that a sweep judges, down to a depth, in the order in which it comes to it. -/
def contents (t : Tree) : Nat → Candidate → List Candidate
  | 0, _ => []
  | depth + 1, c =>
      (t.children c).flatMap fun child => (t.directory? child).elim [child] (t.contents depth)

/-- What a sweep judges in a directory that it lists. -/
def judged (t : Tree) (c : Candidate) : List Candidate :=
  (t.children c).filter fun child => (t.directory? child).isNone

theorem mem_judged_iff :
    child ∈ t.judged here ↔ child ∈ t.children here ∧ t.directory? child = none := by
  simp [judged]

theorem judged_eq_flatMap (t : Tree) (c : Candidate) :
    t.judged c = (t.children c).flatMap fun child =>
      (t.directory? child).elim [child] fun _ => [] := by
  unfold judged
  induction t.children c with
  | nil => rfl
  | cons child rest ih => cases h : t.directory? child <;> simp [h, ih]

/-- What a sweep judges is what it judges in all the directories that it lists. -/
theorem contents_perm (t : Tree) (depth : Nat) (c : Candidate) :
    (t.contents depth c).Perm ((t.visits depth c).flatMap t.judged) := by
  induction depth generalizing c with
  | zero => exact List.Perm.refl _
  | succ depth ih =>
    rw [visits, List.flatMap_cons, judged_eq_flatMap, List.flatMap_assoc]
    refine .trans (.flatMap_left _ fun child _ => ?_) (List.flatMap_append_perm _ _ _).symm
    cases t.directory? child with
    | none => exact List.Perm.refl _
    | some below => simpa using ih below

theorem mem_visits_succ_iff {depth : Nat} :
    c ∈ t.visits (depth + 1) root ↔
      c = root ∨ ∃ below, t.Opens root below ∧ c ∈ t.visits depth below := by
  have hmember : ∀ child, c ∈ (t.directory? child).elim [] (t.visits depth) ↔
      ∃ below, t.directory? child = some below ∧ c ∈ t.visits depth below := by
    intro child
    cases t.directory? child <;> simp
  simp only [visits, List.mem_cons, List.mem_flatMap, hmember, Opens]
  exact or_congr_right
    ⟨fun ⟨child, hchild, below, hbelow, hc⟩ => ⟨below, ⟨child, hchild, hbelow⟩, hc⟩,
      fun ⟨below, ⟨child, hchild, hbelow⟩, hc⟩ => ⟨child, hchild, below, hbelow, hc⟩⟩

/-- A sweep lists only what is opened, one directory after the other, from the first. -/
theorem reaches_of_mem_visits {depth : Nat} (h : c ∈ t.visits depth root) :
    Relation.ReflTransGen t.Opens root c := by
  induction depth generalizing root with
  | zero => cases h
  | succ depth ih =>
    rcases mem_visits_succ_iff.1 h with rfl | ⟨below, hopens, hc⟩
    · exact .refl
    · exact .head hopens (ih hc)

/-- A sweep that goes down far enough lists all that is opened. -/
theorem mem_visits_of_reaches {depth : Nat} (h : Relation.ReflTransGen t.Opens root c)
    (hroot : t.Grounded root.place) (hdepth : t.height root ≤ depth) :
    c ∈ t.visits depth root := by
  induction h using Relation.ReflTransGen.head_induction_on generalizing depth with
  | refl =>
    have hpos := height_pos hroot
    obtain ⟨depth, rfl⟩ := Nat.exists_eq_succ_of_ne_zero (by omega : depth ≠ 0)
    exact mem_visits_succ_iff.2 (.inl rfl)
  | head hopens _ ih =>
    have hless := height_lt hopens hroot
    obtain ⟨depth, rfl⟩ := Nat.exists_eq_succ_of_ne_zero (by omega : depth ≠ 0)
    have hbelow := ih (hopens.grounded hroot) (by omega : _ ≤ depth)
    exact mem_visits_succ_iff.2 (.inr ⟨_, hopens, hbelow⟩)

theorem mem_contents_iff {depth : Nat} :
    c ∈ t.contents depth root ↔ ∃ here ∈ t.visits depth root, c ∈ t.judged here := by
  rw [(contents_perm t depth root).mem_iff, List.mem_flatMap]

end ShipTelemetry.Files.Tree
