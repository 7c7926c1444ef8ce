import ShipTelemetry.Proofs.Files.Confinement

/-!
# Trees without links

A log directory is meant to hold directories and files and nothing else.  In such a tree a
sweep cannot leave the directory that it is sent to, what it may remove is a file that is
stale itself (`Plain.exists_file`), and it meets all files in the tree of that directory
(`Plain.met_of_liesIn`).
-/

namespace ShipTelemetry.Files.Tree

variable {t left : Tree} {c root : Candidate} {cutoff : Moment} {path : Path} {place : Place}

/-- There is nothing in the tree but directories and files. -/
def Plain (t : Tree) : Prop := ∀ place target, t.get? place ≠ some (.link target)

theorem plain_of_entries (h : ∀ e ∈ t.entries, ∀ target, e.2 ≠ .link target) : t.Plain := by
  intro place target hlink
  unfold get? at hlink
  split at hlink
  next => cases hlink
  next =>
    obtain ⟨e, hfound, he⟩ := Option.map_eq_some_iff.1 hlink
    exact h e (List.mem_of_find?_eq_some hfound) target he

theorem Plain.of_leftOf (h : t.Plain) (hleft : left.LeftOf t) : left.Plain :=
  fun place target hlink => h place target (hleft place _ hlink)

theorem Plain.put {entry : Entry} (h : t.Plain) (hplace : place ≠ [])
    (hentry : ∀ target, entry ≠ .link target) : (t.put place entry).Plain := by
  intro other target hlink
  by_cases hother : other = place
  · rw [hother, get?_put_self t hplace, Option.some.injEq] at hlink
    exact hentry target hlink
  · rw [get?_put_of_ne t hother] at hlink
    exact h other target hlink

theorem Plain.staysInside (h : t.Plain) (root : Candidate) : t.StaysInside root :=
  fun place target _ hlink => absurd hlink (h place target)

/-- Without links, what can be removed is a file that is stale itself. -/
theorem Plain.exists_file (h : t.Plain) (hc : t.Removable cutoff c) :
    ∃ content modified, t.get? c.place = some (.file content (some modified) true) ∧
      modified.isBefore cutoff := by
  obtain ⟨⟨modified, hmodified, hbefore⟩, entry, hentry, hremovable⟩ := hc
  obtain ⟨d, hresolves, content, removable, hfile⟩ := modified?_eq_some_iff.1 hmodified
  cases hresolves with
  | directory hdirectory =>
    rw [hdirectory] at hfile
    cases hfile
  | file =>
    rw [hfile, Option.some.injEq] at hentry
    subst hentry
    obtain rfl : removable = true := hremovable
    exact ⟨content, modified, hfile, hbefore⟩
  | link hlink => exact absurd hlink (h _ _)

theorem Located.of_leftOf (hleft : left.LeftOf t) (h : left.Located path root) :
    t.Located path root :=
  located_iff.2 ((located_iff.1 h).imp_right fun hleads => hleads.of_leftOf hleft)

theorem LiesIn.of_leftOf {root : Place} (hleft : left.LeftOf t) (h : left.LiesIn root place) :
    t.LiesIn root place := by
  obtain ⟨here, name, hentered, hplace, hsome⟩ := h
  refine ⟨here, name, ?_, hplace, ?_⟩
  · clear hplace
    induction hentered with
    | root hroot => exact .root (hleft _ _ hroot)
    | enter _ hentry ih => exact ih.enter (hleft _ _ hentry)
  · obtain ⟨entry, hentry⟩ := Option.isSome_iff_exists.1 hsome
    rw [hleft _ _ hentry]
    rfl

/-- Without links a sweep meets every file in the tree of its first directory. -/
theorem Plain.met_of_liesIn {content : String} {modified : Option Moment} {removable : Bool}
    (h : t.Plain) (hlies : t.LiesIn root.place place)
    (hfile : t.get? place = some (.file content modified removable)) :
    t.Met root ⟨place, root.links⟩ := by
  refine (h.staysInside root).met_iff.2 ⟨hlies, rfl, ?_⟩
  simp [directory?, resolve, hfile]

end ShipTelemetry.Files.Tree
