import ShipTelemetry.Proofs.Files.Prune

/-!
# Sweeps and links

Whether something is a directory is asked of what a link leads to, and a sweep goes on there.
So a link to a directory takes it out of the tree that it was sent to sweep, or back to where
it has been.  `prune_confined` says what holds of all trees: a sweep does nothing but remove
stale entries that it has met.  And it says when these lie in the tree of the first directory,
and no directory is listed twice: when no link in that tree leads to a directory
(`StaysInside`).
-/

namespace ShipTelemetry.Files.Tree

variable {t : Tree} {root here below c child : Candidate} {place : Place} {cutoff : Moment}
  {path : Path}

/-! ## The tree of a directory -/

/-- The directories that are entered one after the other by their own names, from the first one
on.  All of them can be listed. -/
inductive Entered (t : Tree) (root : Place) : Place → Prop
  | root : t.get? root = some (.directory true) → Entered t root root
  | enter {here : Place} {name : String} :
      Entered t root here → t.get? (here ++ [name]) = some (.directory true) →
        Entered t root (here ++ [name])

/-- Something stands in the tree of a directory. -/
def LiesIn (t : Tree) (root place : Place) : Prop :=
  ∃ here name, t.Entered root here ∧ place = here ++ [name] ∧ (t.get? place).isSome

/-- No link in the tree of a directory leads to a directory. -/
def StaysInside (t : Tree) (root : Candidate) : Prop :=
  ∀ place target, t.LiesIn root.place place → t.get? place = some (.link target) →
    t.directory? ⟨place, root.links⟩ = none

theorem Entered.readable {root : Place} (h : t.Entered root place) :
    t.get? place = some (.directory true) := by
  cases h with
  | root hroot => exact hroot
  | enter _ hentry => exact hentry

theorem Entered.reaches (h : t.Entered root.place place) :
    Relation.ReflTransGen t.Opens root ⟨place, root.links⟩ := by
  induction h with
  | root => exact .refl
  | @enter here name hhere hentry ih =>
    refine ih.tail ⟨⟨here ++ [name], root.links⟩, mem_children_iff.2 ?_, ?_⟩
    · exact ⟨hhere.readable, name, by simp [hentry], rfl⟩
    · exact directory?_eq_some_iff.2 ⟨.directory hentry, true, hentry⟩

theorem LiesIn.of_child (hhere : t.Entered root.place here.place) (h : child ∈ t.children here) :
    t.LiesIn root.place child.place := by
  obtain ⟨-, name, hsome, rfl⟩ := mem_children_iff.1 h
  exact ⟨here.place, name, hhere, rfl, hsome⟩

theorem Entered.isPrefix {root : Place} (h : t.Entered root place) : root <+: place := by
  induction h with
  | root => exact List.prefix_rfl
  | enter _ _ ih => exact ih.trans (List.prefix_append _ _)

theorem LiesIn.isPrefix {root : Place} (h : t.LiesIn root place) : root <+: place := by
  obtain ⟨here, name, hentered, rfl, -⟩ := h
  exact hentered.isPrefix.trans (List.prefix_append _ _)

/-! ## Sweeps that stay inside -/

/-- What leads to a directory is the directory itself. -/
theorem StaysInside.eq_of_directory? (h : t.StaysInside root) (hc : t.LiesIn root.place c.place)
    (hlinks : c.links = root.links) (hbelow : t.directory? c = some below) : below = c := by
  obtain ⟨hresolves, -⟩ := directory?_eq_some_iff.1 hbelow
  cases hresolves with
  | directory => rfl
  | file => rfl
  | @link place _ fewer _ target hentry _ =>
    have hnone := h place target hc hentry
    rw [← hlinks, hbelow] at hnone
    cases hnone

/-- A sweep that stays inside lists directories that it has entered by their own names. -/
theorem StaysInside.entered (h : t.StaysInside root)
    (hreaches : Relation.ReflTransGen t.Opens root here) (hchild : child ∈ t.children here) :
    t.Entered root.place here.place ∧ here.links = root.links := by
  induction hreaches generalizing child with
  | refl => exact ⟨.root (mem_children_iff.1 hchild).1, rfl⟩
  | tail _ hopens ih =>
    obtain ⟨between, hbetween, hhere⟩ := hopens
    obtain ⟨hentered, hlinks⟩ := ih hbetween
    have hlies := LiesIn.of_child hentered hbetween
    obtain ⟨-, name, -, rfl⟩ := mem_children_iff.1 hbetween
    rw [h.eq_of_directory? hlies hlinks hhere] at hchild ⊢
    exact ⟨hentered.enter (mem_children_iff.1 hchild).1, hlinks⟩

/-- A sweep that stays inside meets what stands in the tree of its first directory and is no
directory. -/
theorem StaysInside.met_iff (h : t.StaysInside root) :
    t.Met root c ↔
      t.LiesIn root.place c.place ∧ c.links = root.links ∧ t.directory? c = none := by
  constructor
  · rintro ⟨here, hreaches, hc⟩
    obtain ⟨hchild, hnone⟩ := mem_judged_iff.1 hc
    obtain ⟨hentered, hlinks⟩ := h.entered hreaches hchild
    refine ⟨LiesIn.of_child hentered hchild, ?_, hnone⟩
    obtain ⟨-, name, -, rfl⟩ := mem_children_iff.1 hchild
    exact hlinks
  · rintro ⟨⟨here, name, hentered, hplace, hsome⟩, hlinks, hnone⟩
    obtain ⟨place, links⟩ := c
    dsimp only at hplace hlinks hsome
    subst hplace hlinks
    refine ⟨⟨here, root.links⟩, hentered.reaches, mem_judged_iff.2 ⟨mem_children_iff.2 ?_, hnone⟩⟩
    exact ⟨hentered.readable, name, hsome, rfl⟩

/-! ### No directory is listed twice -/

theorem nodup_names (t : Tree) (place : Place) : (t.names place).Nodup := by
  have hnames : t.names place = (t.entries.map Prod.fst).filterMap fun other =>
      if other.dropLast = place then other.getLast? else none := by
    rw [List.filterMap_map]
    rfl
  rw [hnames]
  refine t.distinct.filterMap fun first second name hfirst hsecond => ?_
  rw [lastName_eq_some_iff.1 hfirst, lastName_eq_some_iff.1 hsecond]

theorem nodup_children (t : Tree) (c : Candidate) : (t.children c).Nodup := by
  unfold children
  split
  next =>
    refine (nodup_names t c.place).map_on fun first _ second _ heq => ?_
    rw [Candidate.mk.injEq, List.append_cancel_left_eq] at heq
    exact List.singleton_inj.1 heq.1
  next => exact List.nodup_nil

/-- Whatever is listed after a directory has been listed stands below it. -/
theorem StaysInside.isPrefix (h : t.StaysInside root)
    (hhere : Relation.ReflTransGen t.Opens root here)
    (hbelow : Relation.ReflTransGen t.Opens here below) : here.place <+: below.place := by
  induction hbelow with
  | refl => exact List.prefix_rfl
  | tail hbetween hopens ih =>
    obtain ⟨child, hchild, hnext⟩ := hopens
    obtain ⟨hentered, hlinks⟩ := h.entered (hhere.trans hbetween) hchild
    have hlies := LiesIn.of_child hentered hchild
    obtain ⟨-, name, -, rfl⟩ := mem_children_iff.1 hchild
    rw [h.eq_of_directory? hlies hlinks hnext]
    exact ih.trans (List.prefix_append _ _)

/-- What is listed by way of an entry stands at the place of the entry, or below it. -/
theorem StaysInside.isPrefix_of_mem (h : t.StaysInside root) {depth : Nat}
    (hhere : Relation.ReflTransGen t.Opens root here) (hchild : child ∈ t.children here)
    (hc : c ∈ (t.directory? child).elim [] (t.visits depth)) : child.place <+: c.place := by
  cases hopens : t.directory? child with
  | none => simp [hopens] at hc
  | some below =>
    rw [hopens] at hc
    obtain ⟨hentered, hlinks⟩ := h.entered hhere hchild
    have hlies := LiesIn.of_child hentered hchild
    have hsame : below = child := by
      obtain ⟨-, name, -, rfl⟩ := mem_children_iff.1 hchild
      exact h.eq_of_directory? hlies hlinks hopens
    rw [← hsame]
    exact h.isPrefix (hhere.tail ⟨child, hchild, hopens⟩) (reaches_of_mem_visits hc)

theorem eq_of_isPrefix {first second : Candidate} (hfirst : first ∈ t.children here)
    (hsecond : second ∈ t.children here) (h : first.place <+: place)
    (h' : second.place <+: place) : first = second := by
  obtain ⟨-, name, -, rfl⟩ := mem_children_iff.1 hfirst
  obtain ⟨-, name', -, rfl⟩ := mem_children_iff.1 hsecond
  have hplaces : here.place ++ [name] = here.place ++ [name'] :=
    (List.prefix_of_prefix_length_le h h' (by simp)).eq_of_length (by simp)
  rw [hplaces]

theorem StaysInside.nodup_visits (h : t.StaysInside root) (depth : Nat)
    (hhere : Relation.ReflTransGen t.Opens root here) :
    ((t.visits depth here).map Candidate.place).Nodup := by
  induction depth generalizing here with
  | zero => exact List.nodup_nil
  | succ depth ih =>
    rw [visits, List.map_cons, List.nodup_cons]
    constructor
    · -- the directory itself is not below one of its entries
      intro hagain
      obtain ⟨c, hc, hplace⟩ := List.mem_map.1 hagain
      obtain ⟨child, hchild, hc⟩ := List.mem_flatMap.1 hc
      have hlength := (h.isPrefix_of_mem hhere hchild hc).length_le
      obtain ⟨-, name, -, rfl⟩ := mem_children_iff.1 hchild
      rw [hplace, List.length_append, List.length_singleton] at hlength
      omega
    · rw [List.map_flatMap, List.nodup_flatMap]
      constructor
      · intro child hchild
        cases hopens : t.directory? child with
        | none => exact List.nodup_nil
        | some below => exact ih (hhere.tail ⟨child, hchild, hopens⟩)
      · refine (nodup_children t here).imp_of_mem ?_
        intro first second hfirst hsecond hne place hmem hmem'
        obtain ⟨c, hc, rfl⟩ := List.mem_map.1 hmem
        obtain ⟨c', hc', hplace⟩ := List.mem_map.1 hmem'
        have hbelow := h.isPrefix_of_mem hhere hsecond hc'
        rw [hplace] at hbelow
        exact hne (eq_of_isPrefix hfirst hsecond (h.isPrefix_of_mem hhere hfirst hc) hbelow)

/-! ## Confinement -/

/-- What a sweep below a path does, and that it keeps to the tree that it is sent to. -/
theorem prune_confined (t : Tree) (path : Path) (cutoff : Moment) :
    (∀ place, (t.prune path cutoff).1.get? place ≠ t.get? place →
      (t.prune path cutoff).1.get? place = none ∧
        ∃ root c, t.Located path root ∧ t.Met root c ∧ c.place = place ∧ t.Removable cutoff c) ∧
    ∀ root, t.Located path root → t.StaysInside root →
      (∀ place, ¬ t.LiesIn root.place place →
        (t.prune path cutoff).1.get? place = t.get? place) ∧
      (noteIn cutoff t.reach root ([], t, 0)).2 = t.prune path cutoff ∧
      ((noteIn cutoff t.reach root ([], t, 0)).1.map Candidate.place).Nodup := by
  refine ⟨fun place hchanged => removed_of_prune hchanged, fun root hroot hinside => ⟨?_, ?_, ?_⟩⟩
  · intro place houtside
    by_contra hchanged
    obtain ⟨-, other, c, hother, hmet, rfl, -⟩ := removed_of_prune hchanged
    rw [hother.unique hroot] at hmet
    exact houtside (hinside.met_iff.1 hmet).1
  · rw [hroot.noteIn_eq]
  · rw [hroot.noteIn_eq]
    exact hinside.nodup_visits t.reach .refl

/-- A directory with a stale file, a fresh one and a link to a stale file elsewhere. -/
def linkedFile : Tree where
  entries := [
    (["kept"], .file "" (some ⟨1⟩) true),
    (["root"], .directory true),
    (["root", "old"], .file "" (some ⟨1⟩) true),
    (["root", "new"], .file "" (some ⟨5⟩) true),
    (["root", "latest"], .link "../kept")]
  distinct := by decide

theorem staysInside_linkedFile : linkedFile.StaysInside ⟨["root"], 40⟩ := by
  intro place target hlies hlink
  have hplace : place ∈ linkedFile.entries.map Prod.fst := by
    obtain ⟨here, name, -, rfl, hsome⟩ := hlies
    exact (isSome_get?_iff (by simp)).1 hsome
  simp only [linkedFile, List.map_cons, List.map_nil, List.mem_cons, List.not_mem_nil,
    or_false] at hplace
  rcases hplace with rfl | rfl | rfl | rfl | rfl
  · simp [linkedFile, get?] at hlink
  · simp [linkedFile, get?] at hlink
  · simp [linkedFile, get?] at hlink
  · simp [linkedFile, get?] at hlink
  · decide +kernel

theorem prune_confined_linkedFile :
    linkedFile.Located ["root"] ⟨["root"], 40⟩ ∧ linkedFile.StaysInside ⟨["root"], 40⟩ ∧
      (linkedFile.prune ["root"] ⟨5⟩).1.get? ["root", "latest"] = none ∧
      (linkedFile.prune ["root"] ⟨5⟩).1.get? ["kept"] = linkedFile.get? ["kept"] := by
  have hlocated : linkedFile.Located ["root"] ⟨["root"], 40⟩ := by
    unfold Located
    decide +kernel
  have hchanged : (linkedFile.prune ["root"] ⟨5⟩).1.get? ["root", "latest"] ≠
      linkedFile.get? ["root", "latest"] := by decide +kernel
  obtain ⟨hremoved, hinside⟩ := prune_confined linkedFile ["root"] ⟨5⟩
  refine ⟨hlocated, staysInside_linkedFile, (hremoved _ hchanged).1, ?_⟩
  refine (hinside _ hlocated staysInside_linkedFile).1 _ fun hlies => ?_
  exact absurd hlies.isPrefix (by decide)

/-! ### A link to a directory -/

/-- A directory with a link to the directory beside it, in which a stale file lies. -/
def linkedDirectory : Tree where
  entries := [
    (["out"], .directory true),
    (["out", "old"], .file "" (some ⟨1000000000⟩) true),
    (["root"], .directory true),
    (["root", "dir"], .link "../out")]
  distinct := by decide

/-- A sweep of the one directory removes the file in the other. -/
theorem prune_not_confined :
    linkedDirectory.Located ["root"] ⟨["root"], 40⟩ ∧
      ¬ linkedDirectory.LiesIn ["root"] ["out", "old"] ∧
      (linkedDirectory.get? ["out", "old"]).isSome ∧
      (linkedDirectory.prune ["root"] ⟨5000000000⟩).1.get? ["out", "old"] = none := by
  refine ⟨?_, fun hlies => absurd hlies.isPrefix (by decide), by decide, by decide +kernel⟩
  unfold Located
  decide +kernel

end ShipTelemetry.Files.Tree
