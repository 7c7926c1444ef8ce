import Mathlib.Data.List.Basic
import ShipTelemetry.Proofs.Files.Plain

/-!
# Exactly what a sweep removes

In a tree of directories and files a sweep removes the stale files and nothing else: the files
that can be removed, that were modified before the cutoff, and that lie in directories which
can all be listed, from the first one down (`Stale`).  It counts each of them once.

## Strategy

What a sweep leaves is the tree without some of its rows (`Remainder`), so it is known from what
is found in it (`Remainder.eq_of_get?_eq`), and the rows that are gone can be counted
(`Remainder.length_eq`).  Each removal takes one row away and adds one to the count, so number
of rows and count together stay the same (`count_add_length_prune`).

A first sweep with an earlier cutoff takes nothing away from the stale files of a second one
but those that it has removed itself (`Plain.stale_prune_iff`).  So the two sweeps come to the
tree that the second one alone comes to.
-/

namespace ShipTelemetry.Files.Tree

variable {t left last : Tree} {c root : Candidate} {cutoff later : Moment} {path : Path}
  {place : Place} {kept : Place → Bool} {readable : Bool}

/-! ## Trees with rows taken away -/

/-- The second tree is the first one without some of its rows. -/
def Remainder (t left : Tree) : Prop := ∃ kept, kept [] = true ∧ left = t.keep kept

theorem Remainder.trans (h : t.Remainder left) (h' : left.Remainder last) : t.Remainder last := by
  obtain ⟨kept, htop, rfl⟩ := h
  obtain ⟨kept', htop', rfl⟩ := h'
  refine ⟨fun place => kept place && kept' place, by simp [htop, htop'], ?_⟩
  simp [keep, List.filter_filter, Bool.and_comm]

theorem Spares.kept_nil (h : t.Spares kept) : kept [] = true := by
  have htop : t.directory? ⟨[], 0⟩ = some ⟨[], 0⟩ :=
    directory?_eq_some_iff.2 ⟨.directory t.get?_nil, true, t.get?_nil⟩
  exact h.kept_of_directory? htop

theorem LeftBySweep.remainder (h : t.LeftBySweep left) : t.Remainder left := by
  obtain ⟨kept, hspares, rfl⟩ := h
  exact ⟨kept, hspares.kept_nil, rfl⟩

theorem isSome_get?_of_mem {e : Place × Entry} (h : e ∈ t.entries) : (t.get? e.1).isSome := by
  by_cases htop : e.1 = []
  · rw [htop, get?_nil]
    rfl
  · exact (isSome_get?_iff htop).2 (List.mem_map_of_mem h)

/-- The rows that are left are those whose places are still found. -/
theorem Remainder.eq_keep (h : t.Remainder left) :
    left = t.keep fun place => (left.get? place).isSome := by
  obtain ⟨kept, htop, rfl⟩ := h
  have hrows : ∀ e ∈ t.entries, kept e.1 = ((t.keep kept).get? e.1).isSome := by
    intro e he
    have hfound := isSome_get?_of_mem he
    rw [get?_keep]
    cases hkept : kept e.1 with
    | true => simp [hfound]
    | false =>
      have hplace : e.1 ≠ [] := by
        intro hplace
        rw [hplace, htop] at hkept
        cases hkept
      simp [hplace]
  unfold keep
  simp only [Tree.mk.injEq]
  exact List.filter_congr hrows

/-- What is left of a tree is known from what is found in it. -/
theorem Remainder.eq_of_get?_eq (h : t.Remainder left) (h' : t.Remainder last)
    (hsame : ∀ place, left.get? place = last.get? place) : left = last := by
  rw [h.eq_keep, h'.eq_keep]
  simp only [hsame]

theorem Remainder.length_eq (h : t.Remainder left) :
    t.entries.length =
      left.entries.length + (t.entries.filter fun e => (left.get? e.1).isNone).length := by
  have hrows : left.entries = t.entries.filter fun e => (left.get? e.1).isSome :=
    congrArg entries h.eq_keep
  conv_rhs => rw [hrows]
  rw [List.length_eq_length_filter_add fun e => (left.get? e.1).isSome]
  simp only [Option.not_isSome]

/-! ## Counting -/

theorem length_erase {entry : Entry} (h : t.get? place = some entry) (hplace : place ≠ []) :
    (t.erase place).entries.length + 1 = t.entries.length := by
  have hmem : place ∈ t.entries.map Prod.fst := by
    rw [← isSome_get?_iff hplace, h]
    rfl
  have hplaces : (t.erase place).entries.map Prod.fst = (t.entries.map Prod.fst).erase place := by
    rw [t.distinct.erase_eq_filter, List.filter_map]
    refine congrArg (List.map Prod.fst) (List.filter_congr fun e _ => ?_)
    by_cases he : e.1 = place <;> simp [he]
  have hlength := congrArg List.length hplaces
  rw [List.length_erase_of_mem hmem, List.length_map, List.length_map] at hlength
  have hpos : 0 < t.entries.length := by
    rw [← List.length_map Prod.fst]
    exact List.length_pos_of_mem hmem
  omega

/-- With every row that is removed the count goes up by one. -/
theorem count_add_length_pruneOne (cutoff : Moment) (state : Tree × Nat) (c : Candidate) :
    (pruneOne cutoff state c).2 + (pruneOne cutoff state c).1.entries.length =
      state.2 + state.1.entries.length := by
  rcases pruneOne_cases cutoff state c with heq | ⟨hremovable, heq⟩
  · rw [heq]
  · have hplace := hremovable.ne_nil
    obtain ⟨-, entry, hentry, -⟩ := hremovable
    have hlength := length_erase hentry hplace
    rw [heq]
    dsimp only
    omega

theorem count_add_length_foldl (cutoff : Moment) (list : List Candidate) (state : Tree × Nat) :
    (list.foldl (pruneOne cutoff) state).2 +
        (list.foldl (pruneOne cutoff) state).1.entries.length =
      state.2 + state.1.entries.length := by
  induction list generalizing state with
  | nil => rfl
  | cons c rest ih =>
    rw [List.foldl_cons, ih]
    exact count_add_length_pruneOne cutoff state c

theorem count_add_length_prune (t : Tree) (path : Path) (cutoff : Moment) :
    (t.prune path cutoff).2 + (t.prune path cutoff).1.entries.length = t.entries.length := by
  rcases t.located_or_prune_eq path cutoff with ⟨root, hroot⟩ | hnowhere
  · rw [hroot.prune_eq, count_add_length_foldl, Nat.zero_add]
  · rw [hnowhere, Nat.zero_add]

/-- The count is the number of entries that are gone. -/
theorem count_prune (t : Tree) (path : Path) (cutoff : Moment) :
    (t.prune path cutoff).2 =
      (t.entries.filter fun e => ((t.prune path cutoff).1.get? e.1).isNone).length := by
  have hcount := count_add_length_prune t path cutoff
  have hlength := (leftBySweep_prune t path cutoff).remainder.length_eq
  omega

/-! ## Stale files -/

/-- A file that a sweep removes: it lies in the tree of the directory that the path leads to,
all directories on the way to it can be listed, it can be removed, and it tells that it was
modified before the cutoff. -/
def Stale (t : Tree) (path : Path) (cutoff : Moment) (place : Place) : Prop :=
  ∃ root content modified, t.Located path root ∧ t.LiesIn root.place place ∧
    t.get? place = some (.file content (some modified) true) ∧ modified.nanos < cutoff.nanos

theorem Stale.mono (h : t.Stale path cutoff place) (hle : cutoff.nanos ≤ later.nanos) :
    t.Stale path later place := by
  obtain ⟨root, content, modified, hroot, hlies, hfile, hbefore⟩ := h
  exact ⟨root, content, modified, hroot, hlies, hfile, by omega⟩

/-- After a sweep everything is found as before, but for the stale files. -/
theorem Plain.get?_prune_eq_some_iff {entry : Entry} (h : t.Plain) :
    (t.prune path cutoff).1.get? place = some entry ↔
      t.get? place = some entry ∧ ¬ t.Stale path cutoff place := by
  constructor
  · intro hentry
    refine ⟨leftOf_prune t path cutoff _ _ hentry, ?_⟩
    rintro ⟨root, content, modified, hroot, hlies, hfile, hbefore⟩
    have hgone : (t.prune path cutoff).1.get? place = none :=
      hroot.get?_prune_eq_none (h.met_of_liesIn hlies hfile) hfile (decide_eq_true hbefore)
    rw [hgone] at hentry
    cases hentry
  · rintro ⟨hentry, hfresh⟩
    by_contra hchanged
    rw [← hentry] at hchanged
    obtain ⟨-, root, c, hroot, hmet, rfl, hremovable⟩ := removed_of_prune hchanged
    obtain ⟨content, modified, hfile, hbefore⟩ := h.exists_file hremovable
    exact hfresh ⟨root, content, modified, hroot, ((h.staysInside root).met_iff.1 hmet).1, hfile,
      of_decide_eq_true hbefore⟩

/-! ## What a sweep leaves for the next one -/

theorem Entered.root_readable {root : Place} (h : t.Entered root place) :
    t.get? root = some (.directory true) := by
  induction h with
  | root hroot => exact hroot
  | enter _ _ ih => exact ih

theorem Spares.entered {root : Place} (hspares : t.Spares kept) (h : t.Entered root place) :
    (t.keep kept).Entered root place := by
  induction h with
  | root hroot => exact .root (hspares.get?_eq hroot)
  | enter _ hentry ih => exact ih.enter (hspares.get?_eq hentry)

theorem Spares.located (hspares : t.Spares kept) (h : t.Located path root)
    (hroot : t.get? root.place = some (.directory readable)) :
    (t.keep kept).Located path root :=
  located_iff.2 ((located_iff.1 h).imp_right fun hleads => hleads.keep hspares grounded_nil hroot)

/-- A file that is there after a sweep lies where it lay before. -/
theorem LeftBySweep.stale {entry : Entry} (h : t.LeftBySweep left)
    (hstale : t.Stale path cutoff place) (hentry : left.get? place = some entry) :
    left.Stale path cutoff place := by
  obtain ⟨root, content, modified, hroot, ⟨here, name, hentered, rfl, -⟩, hfile, hbefore⟩ := hstale
  have hkept := h.leftOf _ _ hentry
  rw [hfile, Option.some.injEq] at hkept
  subst hkept
  obtain ⟨kept, hspares, rfl⟩ := h
  refine ⟨root, content, modified, hspares.located hroot hentered.root_readable, ?_, hentry,
    hbefore⟩
  exact ⟨here, name, hspares.entered hentered, rfl, Option.isSome_of_eq_some hentry⟩

theorem Stale.of_leftOf (hleft : left.LeftOf t) (h : left.Stale path cutoff place) :
    t.Stale path cutoff place := by
  obtain ⟨root, content, modified, hroot, hlies, hfile, hbefore⟩ := h
  exact ⟨root, content, modified, hroot.of_leftOf hleft, hlies.of_leftOf hleft, hleft _ _ hfile,
    hbefore⟩

/-- The stale files that one sweep leaves to another. -/
theorem Plain.stale_prune_iff (h : t.Plain) :
    (t.prune path cutoff).1.Stale path later place ↔
      t.Stale path later place ∧ ¬ t.Stale path cutoff place := by
  constructor
  · intro hstale
    have hbefore := hstale.of_leftOf (leftOf_prune t path cutoff)
    obtain ⟨-, content, modified, -, -, hfile, -⟩ := hstale
    exact ⟨hbefore, (h.get?_prune_eq_some_iff.1 hfile).2⟩
  · rintro ⟨hstale, hfresh⟩
    obtain ⟨entry, hentry⟩ : ∃ entry, t.get? place = some entry := by
      obtain ⟨-, content, modified, -, -, hfile, -⟩ := hstale
      exact ⟨_, hfile⟩
    exact (leftBySweep_prune t path cutoff).stale hstale
      (h.get?_prune_eq_some_iff.2 ⟨hentry, hfresh⟩)

/-- Of two sweeps the second one leaves what it would leave without the first, if its cutoff is
not earlier. -/
theorem Plain.prune_prune (h : t.Plain) (hle : cutoff.nanos ≤ later.nanos) :
    ((t.prune path cutoff).1.prune path later).1 = (t.prune path later).1 := by
  have hfirst := (leftBySweep_prune t path cutoff).remainder
  have hsecond := (leftBySweep_prune (t.prune path cutoff).1 path later).remainder
  refine (hfirst.trans hsecond).eq_of_get?_eq (leftBySweep_prune t path later).remainder ?_
  intro place
  ext entry
  rw [(h.of_leftOf (leftOf_prune t path cutoff)).get?_prune_eq_some_iff,
    h.get?_prune_eq_some_iff, h.get?_prune_eq_some_iff, h.stale_prune_iff, and_assoc]
  refine and_congr_right fun _ => ⟨fun ⟨hfresh, hlate⟩ hstale => hlate ⟨hstale, hfresh⟩, ?_⟩
  exact fun hfresh => ⟨fun hstale => hfresh (hstale.mono hle), fun hstale => hfresh hstale.1⟩

/-! ## Sweeps are exact -/

/-- A sweep of a tree of directories and files leaves everything as it was but for the stale files,
which are gone, and returns their number.  Two sweeps one after the other, the second with a
cutoff that is not earlier, leave the same tree and remove as many files as the second one
alone. -/
theorem prune_exact (h : t.Plain) (path : Path) (cutoff : Moment) :
    (∀ place entry, (t.prune path cutoff).1.get? place = some entry ↔
      t.get? place = some entry ∧ ¬ t.Stale path cutoff place) ∧
    (t.prune path cutoff).2 =
      (t.entries.filter fun e => ((t.prune path cutoff).1.get? e.1).isNone).length ∧
    ∀ later, cutoff.nanos ≤ later.nanos →
      ((t.prune path cutoff).1.prune path later).1 = (t.prune path later).1 ∧
      (t.prune path cutoff).2 + ((t.prune path cutoff).1.prune path later).2 =
        (t.prune path later).2 := by
  refine ⟨fun _ _ => h.get?_prune_eq_some_iff, count_prune t path cutoff, fun later hle => ?_⟩
  have hsame : ((t.prune path cutoff).1.prune path later).1 = (t.prune path later).1 :=
    h.prune_prune hle
  refine ⟨hsame, ?_⟩
  -- the rows that the sweeps take away are counted
  have hfirst := count_add_length_prune t path cutoff
  have hsecond := count_add_length_prune (t.prune path cutoff).1 path later
  have honce := count_add_length_prune t path later
  rw [hsame] at hsecond
  omega

/-- A log directory in which there is one of everything: stale files that a sweep comes to, and
files that it skips for one reason or another. -/
def mixedLogs : Tree where
  entries := [
    (["logs"], .directory true),
    (["logs", "old"], .file "" (some ⟨3⟩) true),
    (["logs", "older"], .directory true),
    (["logs", "older", "oldest"], .file "" (some ⟨1⟩) true),
    (["logs", "older", "edge"], .file "" (some ⟨5⟩) true),
    (["logs", "protected"], .file "" (some ⟨1⟩) false),
    (["logs", "timeless"], .file "" none true),
    (["logs", "closed"], .directory false),
    (["logs", "closed", "old"], .file "" (some ⟨1⟩) true),
    (["elsewhere"], .file "" (some ⟨1⟩) true)]
  distinct := by decide

theorem prune_exact_mixedLogs :
    mixedLogs.Plain ∧ (2 : Int) ≤ 5 ∧
      (mixedLogs.prune ["logs"] ⟨5⟩).2 = 2 ∧
      (mixedLogs.prune ["logs"] ⟨5⟩).1.get? ["logs", "older", "edge"] =
        some (.file "" (some ⟨5⟩) true) ∧
      ((mixedLogs.prune ["logs"] ⟨2⟩).1.prune ["logs"] ⟨5⟩).1 =
        (mixedLogs.prune ["logs"] ⟨5⟩).1 ∧
      (mixedLogs.prune ["logs"] ⟨2⟩).2 +
        ((mixedLogs.prune ["logs"] ⟨2⟩).1.prune ["logs"] ⟨5⟩).2 = 2 := by
  have hplain : mixedLogs.Plain := plain_of_entries (by simp [mixedLogs])
  have hcount : (mixedLogs.prune ["logs"] ⟨5⟩).2 = 2 := by decide +kernel
  obtain ⟨hfound, -, -⟩ := prune_exact hplain ["logs"] ⟨5⟩
  obtain ⟨-, -, hagain⟩ := prune_exact hplain ["logs"] ⟨2⟩
  obtain ⟨hsame, hsum⟩ := hagain ⟨5⟩ (by decide)
  refine ⟨hplain, by decide, hcount, (hfound _ _).2 ⟨by decide, ?_⟩, hsame, hsum.trans hcount⟩
  -- a file as old as the cutoff is not stale
  rintro ⟨root, content, modified, -, -, hfile, hbefore⟩
  cases hfile
  exact absurd hbefore (by decide)

end ShipTelemetry.Files.Tree
