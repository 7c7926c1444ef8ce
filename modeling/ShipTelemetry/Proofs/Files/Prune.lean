import ShipTelemetry.Proofs.Files.Reach

/-!
# What a sweep removes

A sweep lists and removes by turns, so a directory that it lists late has already lost what
was removed there.  It may look as if the removals could send the rest of the sweep another
way.  They cannot: what a sweep removes leads to a file, and nothing that leads to a file is on
the way to a directory (`Leads.keep`).  So every directory is found as in the tree at the
beginning (`LeftBySweep.directory?_eq`), and a sweep removes as much as somebody who wrote down
beforehand all that there is to judge, and then went through the list (`pruneIn_eq_foldl`).

From the list follow the two statements on which the retention of logs rests.  What is not
found afterwards as before is gone: the sweep met it, it was stale, and it could be removed
(`removed_of_prune`).  And a stale file that the sweep meets and can remove is gone
(`Located.get?_prune_eq_none`).
-/

namespace ShipTelemetry.Files

/-- What can be removed: links, and files that are not protected. -/
def Entry.isRemovable : Entry → Bool
  | .directory _ => false
  | .file _ _ removable => removable
  | .link _ => true

namespace Tree

variable {t left : Tree} {c d here : Candidate} {place : Place} {links n : Nat} {cutoff : Moment}
  {state : Tree × Nat} {kept : Place → Bool}

/-! ## One removal -/

theorem remove_eq_ok_iff {next : Tree} :
    t.remove place = .ok next ↔
      (∃ entry, t.get? place = some entry ∧ entry.isRemovable) ∧ next = t.erase place := by
  rw [@eq_comm _ next]
  unfold remove
  cases t.get? place with
  | none => simp
  | some entry =>
    cases entry with
    | directory readable => simp [Entry.isRemovable]
    | link target => simp [Entry.isRemovable]
    | file content modified removable => cases removable <;> simp [Entry.isRemovable]

/-- An entry that is judged and found stale: what it leads to was modified before the cutoff,
and the entry itself can be removed. -/
def Removable (t : Tree) (cutoff : Moment) (c : Candidate) : Prop :=
  (∃ modified, t.modified? c = some modified ∧ modified.isBefore cutoff) ∧
    ∃ entry, t.get? c.place = some entry ∧ entry.isRemovable

theorem pruneOne_of_removable (h : left.Removable cutoff c) :
    pruneOne cutoff (left, n) c = (left.erase c.place, n + 1) := by
  obtain ⟨⟨modified, hmodified, hbefore⟩, hentry⟩ := h
  have hremove := remove_eq_ok_iff.2 ⟨hentry, rfl⟩
  simp only [pruneOne, hmodified, if_pos hbefore, hremove]

theorem pruneOne_of_not_removable (h : ¬ state.1.Removable cutoff c) :
    pruneOne cutoff state c = state := by
  unfold pruneOne
  split
  next => rfl
  next modified hmodified =>
    split
    next hbefore =>
      split
      next next hremove =>
        exact absurd ⟨⟨modified, hmodified, hbefore⟩, (remove_eq_ok_iff.1 hremove).1⟩ h
      next => rfl
    next => rfl

/-- Judging an entry removes it, or nothing. -/
theorem pruneOne_cases (cutoff : Moment) (state : Tree × Nat) (c : Candidate) :
    pruneOne cutoff state c = state ∨
      state.1.Removable cutoff c ∧
        pruneOne cutoff state c = (state.1.erase c.place, state.2 + 1) := by
  by_cases h : state.1.Removable cutoff c
  · exact .inr ⟨h, pruneOne_of_removable h⟩
  · exact .inl (pruneOne_of_not_removable h)

/-! ## What is left of a tree -/

theorem LeftOf.refl (t : Tree) : t.LeftOf t := fun _ _ h => h

theorem LeftOf.trans {last : Tree} (h : last.LeftOf left) (hleft : left.LeftOf t) :
    last.LeftOf t :=
  fun place entry hentry => hleft place entry (h place entry hentry)

theorem leftOf_keep (t : Tree) (kept : Place → Bool) : (t.keep kept).LeftOf t := by
  intro place entry h
  rw [get?_keep] at h
  split at h
  next => exact h
  next => cases h

theorem leftOf_pruneOne (cutoff : Moment) (state : Tree × Nat) (c : Candidate) :
    (pruneOne cutoff state c).1.LeftOf state.1 := by
  rcases pruneOne_cases cutoff state c with h | ⟨-, h⟩
  · rw [h]
    exact .refl _
  · rw [h]
    exact leftOf_keep _ _

theorem leftOf_foldl (cutoff : Moment) (list : List Candidate) (state : Tree × Nat) :
    (list.foldl (pruneOne cutoff) state).1.LeftOf state.1 := by
  induction list generalizing state with
  | nil => exact .refl _
  | cons c rest ih => exact (ih _).trans (leftOf_pruneOne cutoff state c)

theorem LeftOf.get?_eq_none (h : left.LeftOf t) (hplace : t.get? place = none) :
    left.get? place = none := by
  rw [Option.eq_none_iff_forall_ne_some]
  intro entry hentry
  rw [h place entry hentry] at hplace
  cases hplace

theorem Resolves.of_leftOf (hleft : left.LeftOf t) (h : left.Resolves c d) : t.Resolves c d := by
  cases h with
  | directory hentry => exact .directory (hleft _ _ hentry)
  | file hentry => exact .file (hleft _ _ hentry)
  | link hentry hleads => exact .link (hleft _ _ hentry) (hleads.of_leftOf hleft)

theorem LeftOf.modified?_eq {modified : Moment} (hleft : left.LeftOf t)
    (h : left.modified? c = some modified) : t.modified? c = some modified := by
  obtain ⟨file, hresolves, content, removable, hfile⟩ := modified?_eq_some_iff.1 h
  exact modified?_eq_some_iff.2
    ⟨file, hresolves.of_leftOf hleft, content, removable, hleft _ _ hfile⟩

theorem Removable.of_leftOf (hleft : left.LeftOf t) (h : left.Removable cutoff c) :
    t.Removable cutoff c := by
  obtain ⟨⟨modified, hmodified, hbefore⟩, entry, hentry, hremovable⟩ := h
  exact ⟨⟨modified, hleft.modified?_eq hmodified, hbefore⟩,
    entry, hleft _ _ hentry, hremovable⟩

/-! ## What is left by a sweep -/

/-- The entry at a place leads to a file. -/
def LeadsToFile (t : Tree) (place : Place) : Prop :=
  t.Grounded place.dropLast ∧ ∃ links modified, t.modified? ⟨place, links⟩ = some modified

/-- All that is not kept leads to files. -/
def Spares (t : Tree) (kept : Place → Bool) : Prop :=
  ∀ place, kept place = false → t.LeadsToFile place

theorem Spares.kept_of_directory? (h : t.Spares kept) (hd : t.directory? ⟨place, links⟩ = some d) :
    kept place = true := by
  by_contra hgone
  obtain ⟨hhere, _, modified, hfile⟩ := h place (by simpa using hgone)
  rw [directory?_eq_none hfile hhere links] at hd
  cases hd

theorem Spares.get?_eq {readable : Bool} (h : t.Spares kept)
    (hentry : t.get? place = some (.directory readable)) :
    (t.keep kept).get? place = some (.directory readable) := by
  have hself : t.directory? ⟨place, 0⟩ = some ⟨place, 0⟩ :=
    directory?_eq_some_iff.2 ⟨.directory hentry, readable, hentry⟩
  rw [get?_keep, if_pos (.inr (h.kept_of_directory? hself)), hentry]

/-- A link that a way to a directory goes through is kept. -/
theorem Spares.get?_link_eq {target : String} {rest : Path} {left : Nat} {readable : Bool}
    {here : Place} {name : String} (h : t.Spares kept) (hhere : t.Grounded here)
    (hentry : t.get? (here ++ [name]) = some (.link target))
    (hleads : t.Leads links (linkBase here target) (Path.ofText target ++ rest) place left)
    (hplace : t.get? place = some (.directory readable)) :
    (t.keep kept).get? (here ++ [name]) = some (.link target) := by
  have hkept : kept (here ++ [name]) = true := by
    by_contra hgone
    obtain ⟨-, _, modified, hmodified⟩ := h _ (by simpa using hgone)
    obtain ⟨file, hresolves, content, removable, hfile⟩ := modified?_eq_some_iff.1 hmodified
    -- the link would lead to a file, and the way would go on behind it
    generalize hstart : here ++ [name] = start at hresolves
    cases hresolves with
    | directory hother =>
      rw [← hstart, hentry] at hother
      cases hother
    | file hother =>
      rw [← hstart, hentry] at hother
      cases hother
    | link hother hlink =>
      rw [← hstart, hentry, Option.some.injEq, Entry.link.injEq] at hother
      rw [← hstart, List.dropLast_concat, ← hother] at hlink
      rw [hlink.eq_of_append (hhere.linkBase _) hfile hleads, hfile] at hplace
      cases hplace
  rw [get?_keep, if_pos (.inr hkept), hentry]

/-- The way to a directory is still there. -/
theorem Leads.keep {here : Place} {path : Path} {left : Nat} {readable : Bool}
    (h : t.Leads links here path place left) (hspares : t.Spares kept) (hhere : t.Grounded here)
    (hplace : t.get? place = some (.directory readable)) :
    (t.keep kept).Leads links here path place left := by
  induction h with
  | done => exact .done
  | still hstill _ ih => exact .still hstill (ih hhere hplace)
  | up _ ih => exact .up (ih (hhere.of_prefix (List.dropLast_prefix _)) hplace)
  | down hname hentry _ ih =>
    exact .down hname (hspares.get?_eq hentry) (ih (hhere.concat hentry) hplace)
  | file hname hentry =>
    rw [hentry] at hplace
    cases hplace
  | jump hname hentry hleads ih =>
    exact .jump hname (hspares.get?_link_eq hhere hentry hleads hplace)
      (ih (hhere.linkBase _) hplace)

theorem Spares.resolves {readable : Bool} (hspares : t.Spares kept) (h : t.Resolves c d)
    (hhere : t.Grounded c.place.dropLast) (hd : t.get? d.place = some (.directory readable)) :
    (t.keep kept).Resolves c d := by
  cases h with
  | directory hentry => exact .directory (hspares.get?_eq hentry)
  | file hentry =>
    rw [hentry] at hd
    cases hd
  | @link place _ _ _ _ hentry hleads =>
    refine .link ?_ (hleads.keep hspares (hhere.linkBase _) hd)
    have hkept : kept place = true :=
      hspares.kept_of_directory? (directory?_eq_some_iff.2 ⟨.link hentry hleads, readable, hd⟩)
    rw [get?_keep, if_pos (.inr hkept), hentry]

theorem names_keep (t : Tree) (kept : Place → Bool) (place : Place) :
    (t.keep kept).names place = (t.names place).filter fun name => kept (place ++ [name]) := by
  unfold names keep
  rw [List.filter_filterMap, List.filterMap_filter]
  refine List.filterMap_congr fun e _ => ?_
  cases hname : (if e.1.dropLast = place then e.1.getLast? else none) with
  | none => simp
  | some name =>
    rw [lastName_eq_some_iff.1 hname]
    rfl

/-- The tree is what a sweep leaves of the first one: entries are gone that lead to files, and
nothing else has changed. -/
def LeftBySweep (t left : Tree) : Prop := ∃ kept, t.Spares kept ∧ left = t.keep kept

theorem LeftBySweep.refl (t : Tree) : t.LeftBySweep t := by
  refine ⟨fun _ => true, ?_, by simp [keep]⟩
  intro place hgone
  cases hgone

theorem LeftBySweep.leftOf (h : t.LeftBySweep left) : left.LeftOf t := by
  obtain ⟨kept, -, rfl⟩ := h
  exact leftOf_keep t kept

/-- Directories are found as in the tree at the beginning. -/
theorem LeftBySweep.directory?_eq (h : t.LeftBySweep left) (hhere : t.Grounded c.place.dropLast) :
    left.directory? c = t.directory? c := by
  obtain ⟨kept, hspares, rfl⟩ := h
  ext d
  rw [directory?_eq_some_iff, directory?_eq_some_iff]
  constructor
  · rintro ⟨hresolves, readable, hd⟩
    exact ⟨hresolves.of_leftOf (leftOf_keep t kept), readable, leftOf_keep t kept _ _ hd⟩
  · rintro ⟨hresolves, readable, hd⟩
    exact ⟨hspares.resolves hresolves hhere hd, readable, hspares.get?_eq hd⟩

/-- Directories are listed as in the tree at the beginning, but for what is gone. -/
theorem LeftBySweep.children_eq (h : t.LeftBySweep left) (hhere : t.Grounded here.place) :
    left.children here = (t.children here).filter fun c => (left.get? c.place).isSome := by
  obtain ⟨kept, hspares, rfl⟩ := h
  obtain ⟨readable, hentry⟩ := hhere here.place List.prefix_rfl
  unfold children
  rw [hspares.get?_eq hentry, hentry]
  cases readable with
  | false => rfl
  | true =>
    rw [names_keep, List.filter_map]
    refine congrArg _ (List.filter_congr fun name hname => ?_)
    have hfound := mem_names_iff.1 hname
    cases hkept : kept (here.place ++ [name]) <;> simp [get?_keep, hkept, hfound]

theorem LeftBySweep.erase {modified : Moment} (h : t.LeftBySweep left)
    (hhere : t.Grounded c.place.dropLast) (hc : t.modified? c = some modified) :
    t.LeftBySweep (left.erase c.place) := by
  obtain ⟨kept, hspares, rfl⟩ := h
  refine ⟨fun place => kept place && decide (place ≠ c.place), fun place hgone => ?_, ?_⟩
  · by_cases hplace : place = c.place
    · exact hplace ▸ ⟨hhere, c.links, modified, hc⟩
    · exact hspares place (by simpa [hplace] using hgone)
  · simp [Tree.erase, keep, List.filter_filter, Bool.and_comm]

theorem LeftBySweep.pruneOne (h : t.LeftBySweep state.1) (hhere : t.Grounded c.place.dropLast) :
    t.LeftBySweep (pruneOne cutoff state c).1 := by
  rcases pruneOne_cases cutoff state c with heq | ⟨⟨⟨modified, hmodified, -⟩, -⟩, heq⟩
  · rwa [heq]
  · rw [heq]
    exact h.erase hhere (h.leftOf.modified?_eq hmodified)

theorem LeftBySweep.foldl {list : List Candidate} (h : t.LeftBySweep state.1)
    (hlist : ∀ c ∈ list, t.Grounded c.place.dropLast) :
    t.LeftBySweep (list.foldl (Tree.pruneOne cutoff) state).1 := by
  induction list generalizing state with
  | nil => exact h
  | cons c rest ih =>
    obtain ⟨hc, hrest⟩ := List.forall_mem_cons.1 hlist
    exact ih (h.pruneOne hc) hrest

/-! ## A sweep as one list of judgements -/

theorem grounded_of_reaches (h : Relation.ReflTransGen t.Opens c here)
    (hc : t.Grounded c.place) : t.Grounded here.place := by
  induction h with
  | refl => exact hc
  | tail _ hopens ih => exact hopens.grounded ih

theorem grounded_of_mem_children (h : c ∈ t.children here) (hhere : t.Grounded here.place) :
    t.Grounded c.place.dropLast := by
  obtain ⟨-, name, -, rfl⟩ := mem_children_iff.1 h
  rwa [List.dropLast_concat]

theorem grounded_of_mem_contents {depth : Nat} {root : Candidate} (h : c ∈ t.contents depth root)
    (hroot : t.Grounded root.place) : t.Grounded c.place.dropLast := by
  obtain ⟨here, hhere, hc⟩ := mem_contents_iff.1 h
  exact grounded_of_mem_children (mem_judged_iff.1 hc).1
    (grounded_of_reaches (reaches_of_mem_visits hhere) hroot)

/-- There is nothing to judge where nothing stands. -/
theorem pruneOne_of_missing (h : state.1.get? c.place = none) :
    pruneOne cutoff state c = state := by
  refine pruneOne_of_not_removable fun ⟨_, entry, hentry, _⟩ => ?_
  rw [h] at hentry
  cases hentry

/-- Two loops do the same if they do the same in all states that they come to. -/
theorem foldl_eq_of_invariant {α β : Type} {f g : β → α → β} (Inv : β → Prop) {list : List α}
    (hstep : ∀ state, Inv state → ∀ a ∈ list, f state a = g state a ∧ Inv (g state a))
    {state : β} (hstate : Inv state) : list.foldl f state = list.foldl g state := by
  induction list generalizing state with
  | nil => rfl
  | cons a rest ih =>
    obtain ⟨heq, hnext⟩ := hstep state hstate a List.mem_cons_self
    rw [List.foldl_cons, List.foldl_cons, heq]
    exact ih (fun s hs b hb => hstep s hs b (List.mem_cons_of_mem a hb)) hnext

theorem Resolves.isSome (h : t.Resolves c d) : (t.get? c.place).isSome := by
  cases h with
  | directory hentry => simp [hentry]
  | file hentry => simp [hentry]
  | link hentry => simp [hentry]

theorem directory?_eq_none_of_missing (h : t.get? c.place = none) : t.directory? c = none := by
  rw [Option.eq_none_iff_forall_ne_some]
  intro below hbelow
  have hsome := (directory?_eq_some_iff.1 hbelow).1.isSome
  rw [h] at hsome
  cases hsome

/-- A sweep removes what it would remove if everything that it judges were written down at the
beginning, and then judged. -/
theorem pruneIn_eq_foldl (cutoff : Moment) (depth : Nat) (c : Candidate) (state : Tree × Nat)
    (hc : t.Grounded c.place) (hstate : t.LeftBySweep state.1) :
    pruneIn cutoff depth c state = (t.contents depth c).foldl (pruneOne cutoff) state := by
  induction depth generalizing c state with
  | zero => rfl
  | succ depth ih =>
    rw [pruneIn, contents, hstate.children_eq hc, List.foldl_filter, List.foldl_flatMap]
    refine foldl_eq_of_invariant (fun now => t.LeftBySweep now.1 ∧ now.1.LeftOf state.1) ?_
      ⟨hstate, .refl _⟩
    rintro now ⟨hnow, hless⟩ child hchild
    have hhere := grounded_of_mem_children hchild hc
    rw [hnow.directory?_eq hhere]
    cases hopens : t.directory? child with
    | none =>
      refine ⟨?_, hnow.pruneOne hhere, (leftOf_pruneOne cutoff now child).trans hless⟩
      cases hentry : state.1.get? child.place with
      | none => exact (pruneOne_of_missing (hless.get?_eq_none hentry)).symm
      | some entry => rfl
    | some below =>
      have hbelow : t.Grounded below.place := Opens.grounded ⟨child, hchild, hopens⟩ hc
      have hpresent : (state.1.get? child.place).isSome :=
        (directory?_eq_some_iff.1 ((hstate.directory?_eq hhere).trans hopens)).1.isSome
      rw [if_pos hpresent]
      exact ⟨ih below now hbelow hnow,
        hnow.foldl fun c hcontents => grounded_of_mem_contents hcontents hbelow,
        (leftOf_foldl cutoff _ now).trans hless⟩

theorem LeftBySweep.pruneIn {depth : Nat} (h : t.LeftBySweep state.1) (hc : t.Grounded c.place) :
    t.LeftBySweep (pruneIn cutoff depth c state).1 := by
  rw [pruneIn_eq_foldl cutoff depth c state hc h]
  exact h.foldl fun c hcontents => grounded_of_mem_contents hcontents hc

/-! ### The directories that a sweep comes to -/

/-- What a sweep does with an entry of a directory. -/
def pruneEntry (cutoff : Moment) (depth : Nat) (state : Tree × Nat) (child : Candidate) :
    Tree × Nat :=
  match state.1.directory? child with
  | some below => pruneIn cutoff depth below state
  | none => pruneOne cutoff state child

theorem pruneIn_succ (cutoff : Moment) (depth : Nat) (c : Candidate) (state : Tree × Nat) :
    pruneIn cutoff (depth + 1) c state =
      (state.1.children c).foldl (pruneEntry cutoff depth) state := rfl

/-- A sweep that notes every directory in which it is made. -/
def noteIn (cutoff : Moment) :
    Nat → Candidate → List Candidate × (Tree × Nat) → List Candidate × (Tree × Nat)
  | 0, _, now => now
  | depth + 1, c, now =>
      (now.2.1.children c).foldl (fun now child =>
        match now.2.1.directory? child with
        | some below => noteIn cutoff depth below now
        | none => (now.1, pruneOne cutoff now.2 child)) (now.1 ++ [c], now.2)

theorem flatMap_filter_eq {α β : Type} {f : α → List β} {p : α → Bool} {list : List α}
    (h : ∀ a ∈ list, p a = false → f a = []) : (list.filter p).flatMap f = list.flatMap f := by
  induction list with
  | nil => rfl
  | cons a rest ih =>
    obtain ⟨ha, hrest⟩ := List.forall_mem_cons.1 h
    cases hp : p a with
    | true => rw [List.filter_cons_of_pos hp, List.flatMap_cons, List.flatMap_cons, ih hrest]
    | false => rw [List.filter_cons_of_neg (by simp [hp]), List.flatMap_cons, ha hp, ih hrest]; rfl

/-- What is gone was no directory, so nothing is lost of a list made of the directories. -/
theorem LeftBySweep.flatMap_children {β : Type} {note : Candidate → List β}
    (h : t.LeftBySweep left) (hc : t.Grounded c.place)
    (hnote : ∀ child, t.directory? child = none → note child = []) :
    (left.children c).flatMap note = (t.children c).flatMap note := by
  rw [h.children_eq hc]
  refine flatMap_filter_eq fun child hchild hgone => hnote child ?_
  rw [← h.directory?_eq (grounded_of_mem_children hchild hc)]
  exact directory?_eq_none_of_missing (by simpa using hgone)

theorem foldl_append_pair {α β γ : Type} (f : α → List β) (g : γ → α → γ) (list : List α)
    (noted : List β) (state : γ) :
    list.foldl (fun now a => (now.1 ++ f a, g now.2 a)) (noted, state) =
      (noted ++ list.flatMap f, list.foldl g state) := by
  induction list generalizing noted state with
  | nil => simp
  | cons a rest ih => simp [ih]

/-- A sweep that takes notes removes what it would remove without, and it notes the directories
that there were at the beginning. -/
theorem noteIn_eq (cutoff : Moment) (depth : Nat) (c : Candidate) (noted : List Candidate)
    (state : Tree × Nat) (hc : t.Grounded c.place) (hstate : t.LeftBySweep state.1) :
    noteIn cutoff depth c (noted, state) =
      (noted ++ t.visits depth c, pruneIn cutoff depth c state) := by
  induction depth generalizing c noted state with
  | zero => simp [noteIn, visits, Tree.pruneIn]
  | succ depth ih =>
    let note : Candidate → List Candidate := fun child =>
      (t.directory? child).elim [] (t.visits depth)
    -- files that a sweep has removed would have been noted with nothing
    have hnote : (state.1.children c).flatMap note = (t.children c).flatMap note :=
      hstate.flatMap_children hc fun child hnone => by simp [note, hnone]
    -- one child: it opens, or not, as it does in the tree at the beginning
    have hstep : ∀ now : List Candidate × (Tree × Nat), t.LeftBySweep now.2.1 →
        ∀ child ∈ state.1.children c,
          (match now.2.1.directory? child with
            | some below => noteIn cutoff depth below now
            | none => (now.1, Tree.pruneOne cutoff now.2 child)) =
              (now.1 ++ note child, pruneEntry cutoff depth now.2 child) ∧
            t.LeftBySweep (pruneEntry cutoff depth now.2 child).1 := by
      intro now hnow child hentry
      have hchild : child ∈ t.children c := by
        rw [hstate.children_eq hc] at hentry
        exact List.mem_of_mem_filter hentry
      have hhere := grounded_of_mem_children hchild hc
      unfold pruneEntry
      cases hopens : t.directory? child with
      | none =>
        simp only [hnow.directory?_eq hhere, hopens, note]
        exact ⟨by simp, hnow.pruneOne hhere⟩
      | some below =>
        have hbelow : t.Grounded below.place := Opens.grounded ⟨child, hchild, hopens⟩ hc
        simp only [hnow.directory?_eq hhere, hopens, note]
        exact ⟨ih below now.1 now.2 hbelow hnow, hnow.pruneIn hbelow⟩
    rw [noteIn, pruneIn_succ, visits]
    calc (state.1.children c).foldl _ (noted ++ [c], state)
        = (state.1.children c).foldl
            (fun now child => (now.1 ++ note child, pruneEntry cutoff depth now.2 child))
            (noted ++ [c], state) :=
          foldl_eq_of_invariant (fun now => t.LeftBySweep now.2.1) hstep hstate
      _ = (noted ++ [c] ++ (state.1.children c).flatMap note,
            (state.1.children c).foldl (pruneEntry cutoff depth) state) :=
          foldl_append_pair note _ _ _ _
      _ = _ := by rw [hnote, ← List.append_cons noted c]

/-! ## What a sweep does to a tree -/

theorem Removable.ne_nil (h : t.Removable cutoff c) : c.place ≠ [] := by
  obtain ⟨-, entry, hentry, hremovable⟩ := h
  intro htop
  rw [htop, get?_nil, Option.some.injEq] at hentry
  rw [← hentry] at hremovable
  cases hremovable

/-- Whatever is not as before has been removed: it was on the list, stale, and could be
removed. -/
theorem removed_of_foldl {list : List Candidate}
    (h : (list.foldl (pruneOne cutoff) state).1.get? place ≠ state.1.get? place) :
    (list.foldl (pruneOne cutoff) state).1.get? place = none ∧
      ∃ c ∈ list, c.place = place ∧ state.1.Removable cutoff c := by
  induction list generalizing state with
  | nil => exact absurd rfl h
  | cons c rest ih =>
    rw [List.foldl_cons] at h ⊢
    by_cases hlater : (rest.foldl (pruneOne cutoff) (pruneOne cutoff state c)).1.get? place =
        (pruneOne cutoff state c).1.get? place
    · -- it is this entry that is removed
      rw [hlater] at h ⊢
      rcases pruneOne_cases cutoff state c with heq | ⟨hremovable, heq⟩
      · exact absurd (congrArg (·.1.get? place) heq) h
      · rw [heq] at h ⊢
        have hplace : place = c.place := by
          by_contra hne
          exact h (get?_erase_of_ne _ hne)
        subst hplace
        exact ⟨get?_erase_self _ hremovable.ne_nil, c, List.mem_cons_self, rfl, hremovable⟩
    · obtain ⟨hgone, c', hc', hplace, hremovable⟩ := ih hlater
      exact ⟨hgone, c', List.mem_cons_of_mem c hc', hplace,
        hremovable.of_leftOf (leftOf_pruneOne cutoff state c)⟩

theorem removable_of_file {content : String} {modified : Moment}
    (hfile : t.get? c.place = some (.file content (some modified) true))
    (hbefore : modified.isBefore cutoff) : t.Removable cutoff c :=
  ⟨⟨modified, modified?_eq_some_iff.2 ⟨c, .file hfile, content, true, hfile⟩, hbefore⟩,
    _, hfile, rfl⟩

/-- A stale file on the list that can be removed is gone. -/
theorem get?_foldl_eq_none {list : List Candidate} {content : String} {modified : Moment}
    (hc : c ∈ list) (hfile : state.1.get? c.place = some (.file content (some modified) true))
    (hbefore : modified.isBefore cutoff) :
    (list.foldl (pruneOne cutoff) state).1.get? c.place = none := by
  induction list generalizing state with
  | nil => cases hc
  | cons first rest ih =>
    rcases List.mem_cons.1 hc with rfl | hc
    · have hremovable := removable_of_file hfile hbefore
      have hgone : (pruneOne cutoff state c).1.get? c.place = none := by
        rw [pruneOne_of_removable hremovable]
        exact get?_erase_self _ hremovable.ne_nil
      exact (leftOf_foldl cutoff rest _).get?_eq_none hgone
    · cases hnow : (pruneOne cutoff state first).1.get? c.place with
      | none => exact (leftOf_foldl cutoff rest _).get?_eq_none hnow
      | some entry =>
        have hsame := leftOf_pruneOne cutoff state first _ _ hnow
        rw [hfile] at hsame
        exact ih hc (hnow.trans hsame.symm)

/-! ## Sweeps below a path -/

variable {path : Path} {root : Candidate}

/-- A path leads to a place, as far as it may. -/
def Located (t : Tree) (path : Path) (root : Candidate) : Prop :=
  t.locate .find path = .ok (.found root.place root.links)

/-- A sweep meets an entry: it comes to its directory, and the entry leads to none. -/
def Met (t : Tree) (root c : Candidate) : Prop :=
  ∃ here, Relation.ReflTransGen t.Opens root here ∧ c ∈ t.judged here

theorem Located.unique {other : Candidate} (h : t.Located path root)
    (hother : t.Located path other) : root = other := by
  obtain ⟨place, links⟩ := root
  obtain ⟨place', links'⟩ := other
  simpa using h.symm.trans hother

theorem located_iff :
    t.Located path root ↔
      path.refusal? = none ∧ t.Leads maxLinks [] path root.place root.links := by
  unfold Located locate
  cases path.refusal? with
  | none => simp [walk_eq_found_iff]
  | some refusal => simp

theorem Located.leads (h : t.Located path root) :
    t.Leads maxLinks [] path root.place root.links :=
  (located_iff.1 h).2

theorem Located.height_le (h : t.Located path root) : t.height root ≤ t.reach :=
  height_le_reach h.leads.links_le

theorem Located.grounded (h : t.Located path root) (hc : c ∈ t.children root) :
    t.Grounded root.place :=
  h.leads.grounded grounded_nil (mem_children_iff.1 hc).1

theorem Met.exists_child (h : t.Met root c) : ∃ child, child ∈ t.children root := by
  obtain ⟨here, hreaches, hc⟩ := h
  rcases hreaches.cases_head with rfl | ⟨_, ⟨child, hchild, -⟩, -⟩
  · exact ⟨c, (mem_judged_iff.1 hc).1⟩
  · exact ⟨child, hchild⟩

theorem Located.mem_contents_iff (h : t.Located path root) :
    c ∈ t.contents t.reach root ↔ t.Met root c := by
  rw [Tree.mem_contents_iff]
  constructor
  · rintro ⟨here, hhere, hc⟩
    exact ⟨here, reaches_of_mem_visits hhere, hc⟩
  · intro hmet
    obtain ⟨child, hchild⟩ := hmet.exists_child
    obtain ⟨here, hreaches, hc⟩ := hmet
    exact ⟨here, mem_visits_of_reaches hreaches (h.grounded hchild) h.height_le, hc⟩

theorem Located.prune_eq_pruneIn (h : t.Located path root) (cutoff : Moment) :
    t.prune path cutoff = pruneIn cutoff t.reach root (t, 0) := by
  unfold prune
  rw [h]

/-- A path leads to a directory with directories above it, or to something without entries. -/
theorem Located.grounded_or (h : t.Located path root) :
    t.Grounded root.place ∨ t.children root = [] := by
  refine (h.leads.ends grounded_nil).imp_right fun ⟨content, modified, removable, hfile⟩ => ?_
  simp [children, hfile]

theorem Located.prune_eq (h : t.Located path root) (cutoff : Moment) :
    t.prune path cutoff = (t.contents t.reach root).foldl (pruneOne cutoff) (t, 0) := by
  rw [h.prune_eq_pruneIn]
  rcases h.grounded_or with hgrounded | hnone
  · exact pruneIn_eq_foldl cutoff t.reach root (t, 0) hgrounded (.refl t)
  · cases t.reach with
    | zero => rfl
    | succ depth => simp [pruneIn, contents, hnone]

theorem Located.noteIn_eq (h : t.Located path root) (cutoff : Moment) :
    noteIn cutoff t.reach root ([], t, 0) = (t.visits t.reach root, t.prune path cutoff) := by
  rw [h.prune_eq_pruneIn]
  rcases h.grounded_or with hgrounded | hnone
  · exact Tree.noteIn_eq cutoff t.reach root [] (t, 0) hgrounded (.refl t)
  · cases t.reach with
    | zero => rfl
    | succ depth => simp [pruneIn, noteIn, visits, hnone]

/-- Where a path leads nowhere there is no sweep. -/
theorem located_or_prune_eq (t : Tree) (path : Path) (cutoff : Moment) :
    (∃ root, t.Located path root) ∨ t.prune path cutoff = (t, 0) := by
  unfold prune
  split
  next place links hlocate => exact .inl ⟨⟨place, links⟩, hlocate⟩
  next => exact .inr rfl

/-- A sweep leaves all directories, and every link that leads to one. -/
theorem leftBySweep_prune (t : Tree) (path : Path) (cutoff : Moment) :
    t.LeftBySweep (t.prune path cutoff).1 := by
  rcases t.located_or_prune_eq path cutoff with ⟨root, hroot⟩ | hnowhere
  · rw [hroot.prune_eq_pruneIn]
    rcases hroot.grounded_or with hgrounded | hnone
    · exact LeftBySweep.pruneIn (.refl t) hgrounded
    · cases t.reach with
      | zero => exact .refl t
      | succ depth =>
        rw [pruneIn, hnone]
        exact .refl t
  · rw [hnowhere]
    exact .refl t

theorem leftOf_prune (t : Tree) (path : Path) (cutoff : Moment) :
    (t.prune path cutoff).1.LeftOf t :=
  (leftBySweep_prune t path cutoff).leftOf

/-- Whatever a sweep changes it removes; it met it, and it could remove it. -/
theorem removed_of_prune (h : (t.prune path cutoff).1.get? place ≠ t.get? place) :
    (t.prune path cutoff).1.get? place = none ∧
      ∃ root c, t.Located path root ∧ t.Met root c ∧ c.place = place ∧ t.Removable cutoff c := by
  rcases t.located_or_prune_eq path cutoff with ⟨root, hroot⟩ | hnowhere
  · rw [hroot.prune_eq] at h ⊢
    obtain ⟨hgone, c, hc, hplace, hremovable⟩ := removed_of_foldl h
    exact ⟨hgone, root, c, hroot, hroot.mem_contents_iff.1 hc, hplace, hremovable⟩
  · rw [hnowhere] at h
    exact absurd rfl h

/-- A stale file that a sweep meets and can remove is gone. -/
theorem Located.get?_prune_eq_none {content : String} {modified : Moment}
    (h : t.Located path root) (hmet : t.Met root c)
    (hfile : t.get? c.place = some (.file content (some modified) true))
    (hbefore : modified.isBefore cutoff) : (t.prune path cutoff).1.get? c.place = none := by
  rw [h.prune_eq]
  exact get?_foldl_eq_none (h.mem_contents_iff.2 hmet) hfile hbefore

end Tree

end ShipTelemetry.Files
