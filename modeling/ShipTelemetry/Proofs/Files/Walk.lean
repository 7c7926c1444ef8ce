import ShipTelemetry.Files.Walk

/-!
# Where walks end

A path is walked one piece after the other.  `Leads` is the same walk as a relation, with one
rule for each kind of piece, and `walk_eq_found_iff` says that a walk finds exactly the places
that its path leads to.

What a walk needs to be told of a tree is then shown rule by rule:

* a walk ends at a file, or at a directory with nothing but directories above it
  (`Leads.ends`), and has no more links left than before (`Leads.links_le`);
* a walk through what is left of a tree is a walk through the whole tree (`Leads.of_leftOf`);
* a path that leads to a file cannot be continued to any other place (`Leads.eq_of_append`).
-/

namespace ShipTelemetry.Files.Tree

variable {t : Tree} {links left : Nat} {here place : Place} {name : String} {rest path : Path}

/-! ## Places with directories above them -/

/-- All that stands on the way to a place is directories, the place itself included. -/
def Grounded (t : Tree) (place : Place) : Prop :=
  ∀ front, front <+: place → ∃ readable, t.get? front = some (.directory readable)

theorem grounded_nil : t.Grounded [] := by
  intro front hfront
  rw [List.prefix_nil.1 hfront]
  exact ⟨true, rfl⟩

theorem Grounded.concat {readable : Bool} (h : t.Grounded here)
    (hentry : t.get? (here ++ [name]) = some (.directory readable)) :
    t.Grounded (here ++ [name]) := by
  intro front hfront
  rcases List.prefix_concat_iff.1 hfront with rfl | hfront
  · exact ⟨readable, hentry⟩
  · exact h front hfront

theorem Grounded.of_dropLast {readable : Bool} (h : t.Grounded place.dropLast)
    (hentry : t.get? place = some (.directory readable)) : t.Grounded place := by
  rcases List.eq_nil_or_concat place with rfl | ⟨front, name, rfl⟩
  · exact grounded_nil
  · rw [List.concat_eq_append] at h hentry ⊢
    rw [List.dropLast_concat] at h
    exact h.concat hentry

theorem Grounded.of_prefix (h : t.Grounded place) (hfront : here <+: place) : t.Grounded here :=
  fun front hfirst => h front (hfirst.trans hfront)

theorem Grounded.linkBase (h : t.Grounded here) (target : String) :
    t.Grounded (linkBase here target) := by
  unfold Tree.linkBase
  split
  next => exact grounded_nil
  next => exact h

/-! ## Walks as a relation -/

/-- A piece that is looked up in a directory. -/
structure IsName (name : String) : Prop where
  moves : Path.isStill name = false
  ne_up : name ≠ ".."
  short : name.utf8ByteSize ≤ Path.maxNameBytes

/-- With so many links to follow, a path leads from a directory to a place, where so many
links are left. -/
inductive Leads (t : Tree) : Nat → Place → Path → Place → Nat → Prop
  | done {links : Nat} {here : Place} : Leads t links here [] here links
  | still {links left : Nat} {here place : Place} {name : String} {rest : Path} :
      Path.isStill name = true → Leads t links here rest place left →
        Leads t links here (name :: rest) place left
  | up {links left : Nat} {here place : Place} {rest : Path} :
      Leads t links here.dropLast rest place left → Leads t links here (".." :: rest) place left
  | down {links left : Nat} {here place : Place} {name : String} {rest : Path} {readable : Bool} :
      IsName name → t.get? (here ++ [name]) = some (.directory readable) →
        Leads t links (here ++ [name]) rest place left →
          Leads t links here (name :: rest) place left
  | file {links : Nat} {here : Place} {name content : String} {modified : Option Moment}
      {removable : Bool} :
      IsName name → t.get? (here ++ [name]) = some (.file content modified removable) →
        Leads t links here [name] (here ++ [name]) links
  | jump {links left : Nat} {here place : Place} {name target : String} {rest : Path} :
      IsName name → t.get? (here ++ [name]) = some (.link target) →
        Leads t links (linkBase here target) (Path.ofText target ++ rest) place left →
          Leads t (links + 1) here (name :: rest) place left

@[simp] theorem walk_nil (t : Tree) (purpose : Purpose) (links : Nat) (here : Place) :
    t.walk purpose links here [] = .ok (.found here links) := by
  cases links <;> rfl

/-- One step of a walk that looks for something. -/
theorem walk_cons (t : Tree) (links : Nat) (here : Place) (name : String) (rest : Path) :
    t.walk .find links here (name :: rest) =
      if Path.isStill name then t.walk .find links here rest
      else if name = ".." then t.walk .find links here.dropLast rest
      else if Path.maxNameBytes < name.utf8ByteSize then .error .nameTooLong
      else
        match t.get? (here ++ [name]) with
        | none => if isAtEnd rest then .ok (.free (here ++ [name])) else .error .notFound
        | some (.directory _) => t.walk .find links (here ++ [name]) rest
        | some (.file ..) =>
            if rest = [] then .ok (.found (here ++ [name]) links) else .error .notADirectory
        | some (.link target) =>
            match links with
            | 0 => .error .tooManyLinks
            | left + 1 =>
                t.walk .find left (linkBase here target) (Path.ofText target ++ rest) := by
  -- of the tests that a walk makes, the third is for walks that make something
  have hpurpose : ¬ (Purpose.find = .make ∧ rest ≠ [] ∧ isAtEnd rest) := fun h => nomatch h.1
  cases links with
  | zero =>
    exact congrArg (fun found => if Path.isStill name then t.walk .find 0 here rest
      else if name = ".." then t.walk .find 0 here.dropLast rest else found) (if_neg hpurpose)
  | succ left =>
    exact congrArg (fun found => if Path.isStill name then t.walk .find (left + 1) here rest
      else if name = ".." then t.walk .find (left + 1) here.dropLast rest else found)
        (if_neg hpurpose)

/-- One step of a walk to an entry of a directory. -/
theorem walk_name (hname : IsName name) :
    t.walk .find links here (name :: rest) =
      match t.get? (here ++ [name]) with
      | none => if isAtEnd rest then .ok (.free (here ++ [name])) else .error .notFound
      | some (.directory _) => t.walk .find links (here ++ [name]) rest
      | some (.file ..) =>
          if rest = [] then .ok (.found (here ++ [name]) links) else .error .notADirectory
      | some (.link target) =>
          match links with
          | 0 => .error .tooManyLinks
          | left + 1 =>
              t.walk .find left (linkBase here target) (Path.ofText target ++ rest) := by
  rw [walk_cons, if_neg (by simp [hname.moves]), if_neg hname.ne_up,
    if_neg (Nat.not_lt.2 hname.short)]

theorem leads_of_walk (h : t.walk .find links here path = .ok (.found place left)) :
    t.Leads links here path place left := by
  -- a jump starts a walk with fewer links, any other step goes on with a shorter path
  induction links using Nat.strongRecOn generalizing here path with
  | ind links ihLinks =>
    induction path generalizing here with
    | nil =>
      simp only [walk_nil, Except.ok.injEq, Walk.found.injEq] at h
      obtain ⟨rfl, rfl⟩ := h
      exact .done
    | cons name rest ihPath =>
      rw [walk_cons] at h
      split at h
      next hstill => exact .still hstill (ihPath h)
      next hmoves =>
      split at h
      next hup =>
        rw [hup]
        exact .up (ihPath h)
      next hup =>
      split at h
      next => cases h
      next hshort =>
      have hname : IsName name := ⟨by simpa using hmoves, hup, by omega⟩
      cases hentry : t.get? (here ++ [name]) with
      | none =>
        rw [hentry] at h
        dsimp only at h
        split at h <;> cases h
      | some entry =>
        cases entry with
        | directory readable =>
          rw [hentry] at h
          exact .down hname hentry (ihPath h)
        | file content modified removable =>
          rw [hentry] at h
          dsimp only at h
          split at h
          next hend =>
            subst hend
            simp only [Except.ok.injEq, Walk.found.injEq] at h
            obtain ⟨rfl, rfl⟩ := h
            exact .file hname hentry
          next => cases h
        | link target =>
          rw [hentry] at h
          cases links with
          | zero => cases h
          | succ fewer => exact .jump hname hentry (ihLinks fewer (Nat.lt_succ_self fewer) h)

theorem Leads.walk_eq (h : t.Leads links here path place left) :
    t.walk .find links here path = .ok (.found place left) := by
  induction h with
  | done => exact walk_nil t .find _ _
  | still hstill _ ih => rw [walk_cons, if_pos hstill, ih]
  | up _ ih => rw [walk_cons, if_neg (by decide), if_pos rfl, ih]
  | down hname hentry _ ih => rw [walk_name hname, hentry, ih]
  | file hname hentry => rw [walk_name hname, hentry, if_pos rfl]
  | jump hname hentry _ ih =>
    rw [walk_name hname, hentry]
    exact ih

/-- A walk finds exactly the places that its path leads to. -/
theorem walk_eq_found_iff :
    t.walk .find links here path = .ok (.found place left) ↔ t.Leads links here path place left :=
  ⟨leads_of_walk, Leads.walk_eq⟩

/-! ### One piece at a time -/

theorem leads_still_iff (hstill : Path.isStill name = true) :
    t.Leads links here (name :: rest) place left ↔ t.Leads links here rest place left := by
  rw [← walk_eq_found_iff, ← walk_eq_found_iff, walk_cons, if_pos hstill]

theorem leads_up_iff :
    t.Leads links here (".." :: rest) place left ↔ t.Leads links here.dropLast rest place left := by
  rw [← walk_eq_found_iff, ← walk_eq_found_iff, walk_cons, if_neg (by decide), if_pos rfl]

theorem leads_down_iff {readable : Bool} (hname : IsName name)
    (hentry : t.get? (here ++ [name]) = some (.directory readable)) :
    t.Leads links here (name :: rest) place left ↔
      t.Leads links (here ++ [name]) rest place left := by
  rw [← walk_eq_found_iff, ← walk_eq_found_iff, walk_name hname, hentry]

theorem leads_file_iff {content : String} {modified : Option Moment} {removable : Bool}
    (hname : IsName name)
    (hentry : t.get? (here ++ [name]) = some (.file content modified removable)) :
    t.Leads links here (name :: rest) place left ↔
      rest = [] ∧ place = here ++ [name] ∧ left = links := by
  rw [← walk_eq_found_iff, walk_name hname, hentry]
  by_cases hend : rest = [] <;> simp [hend, eq_comm]

theorem leads_jump_iff {target : String} (hname : IsName name)
    (hentry : t.get? (here ++ [name]) = some (.link target)) :
    t.Leads links here (name :: rest) place left ↔
      ∃ fewer, links = fewer + 1 ∧
        t.Leads fewer (linkBase here target) (Path.ofText target ++ rest) place left := by
  simp only [← walk_eq_found_iff]
  rw [walk_name hname, hentry]
  cases links <;> simp

/-! ## The end of a walk -/

theorem Leads.links_le (h : t.Leads links here path place left) : left ≤ links := by
  induction h with
  | done => exact Nat.le_refl _
  | still _ _ ih => exact ih
  | up _ ih => exact ih
  | down _ _ _ ih => exact ih
  | file _ _ => exact Nat.le_refl _
  | jump _ _ _ ih => omega

/-- A walk ends at a file, or at a directory with directories above it. -/
theorem Leads.ends (h : t.Leads links here path place left) (hhere : t.Grounded here) :
    t.Grounded place ∨
      ∃ content modified removable, t.get? place = some (.file content modified removable) := by
  induction h with
  | done => exact .inl hhere
  | still _ _ ih => exact ih hhere
  | up _ ih => exact ih (hhere.of_prefix (List.dropLast_prefix _))
  | down _ hentry _ ih => exact ih (hhere.concat hentry)
  | file _ hentry => exact .inr ⟨_, _, _, hentry⟩
  | jump _ _ _ ih => exact ih (hhere.linkBase _)

theorem Leads.grounded {readable : Bool} (h : t.Leads links here path place left)
    (hhere : t.Grounded here) (hplace : t.get? place = some (.directory readable)) :
    t.Grounded place := by
  rcases h.ends hhere with hgrounded | ⟨content, modified, removable, hfile⟩
  · exact hgrounded
  · rw [hplace] at hfile
    cases hfile

/-! ## Paths that end at a file -/

theorem Grounded.ne_file {content : String} {modified : Option Moment} {removable : Bool}
    (h : t.Grounded here) : t.get? here ≠ some (.file content modified removable) := by
  obtain ⟨readable, hdirectory⟩ := h here List.prefix_rfl
  rw [hdirectory]
  exact fun hfile => nomatch hfile

/-- Behind a file there is nothing: whoever goes on from there, with any number of links to
follow, gets nowhere else. -/
theorem Leads.eq_of_append {more : Path} {file : Place} {links' left' : Nat} {content : String}
    {modified : Option Moment} {removable : Bool} (h : t.Leads links here path file left)
    (hhere : t.Grounded here) (hfile : t.get? file = some (.file content modified removable))
    (hmore : t.Leads links' here (path ++ more) place left') : place = file := by
  induction h generalizing links' with
  | done => exact absurd hfile hhere.ne_file
  | still hstill _ ih => exact ih hhere hfile ((leads_still_iff hstill).1 hmore)
  | up _ ih =>
    exact ih (hhere.of_prefix (List.dropLast_prefix _)) hfile (leads_up_iff.1 hmore)
  | down hname hentry _ ih =>
    exact ih (hhere.concat hentry) hfile ((leads_down_iff hname hentry).1 hmore)
  | file hname hentry => exact ((leads_file_iff hname hentry).1 hmore).2.1
  | jump hname hentry _ ih =>
    obtain ⟨fewer, -, hjump⟩ := (leads_jump_iff hname hentry).1 hmore
    exact ih (hhere.linkBase _) hfile ((List.append_assoc _ _ more).symm ▸ hjump)

/-! ## What is left of a tree -/

/-- All that is found in the first tree is found in the second. -/
def LeftOf (left t : Tree) : Prop :=
  ∀ place entry, left.get? place = some entry → t.get? place = some entry

/-- A way through what is left of a tree is a way through the tree. -/
theorem Leads.of_leftOf {rest : Tree} (hleft : rest.LeftOf t)
    (h : rest.Leads links here path place left) : t.Leads links here path place left := by
  induction h with
  | done => exact .done
  | still hstill _ ih => exact .still hstill ih
  | up _ ih => exact .up ih
  | down hname hentry _ ih => exact .down hname (hleft _ _ hentry) ih
  | file hname hentry => exact .file hname (hleft _ _ hentry)
  | jump hname hentry _ ih => exact .jump hname (hleft _ _ hentry) ih

end ShipTelemetry.Files.Tree
