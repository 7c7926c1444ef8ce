/-!
# File trees

A file tree is a table from places to what stands there: a directory, a file, or a link that
holds a path.  A place is the list of names on the way from the top; the top itself is the
empty list and is always a directory.  The table holds at most one row for a place, and
keeps the order in which the entries were made: that is the order in which a directory names
them.

A change at one place shows at no other: `get?_put_of_ne` and `get?_erase_of_ne`.  A listing of
what stands below a place is written with paths from there.
-/

namespace ShipTelemetry

/-! ## Moments -/

/-- A moment, in nanoseconds since the beginning of 1970; it may lie before that. -/
structure Moment where
  nanos : Int
deriving DecidableEq, Repr

namespace Moment

/-- The moment this many seconds and nanoseconds after the beginning of 1970. -/
def ofSeconds (seconds : Int) (nanos : Nat) : Moment := ⟨seconds * 1000000000 + nanos⟩

/-- The whole seconds, rounded down. -/
def seconds (m : Moment) : Int := m.nanos.fdiv 1000000000

/-- The moment is earlier. -/
def isBefore (m other : Moment) : Bool := m.nanos < other.nanos

end Moment

namespace Files

/-! ## Entries -/

/-- The names on the way from the top of the tree. -/
abbrev Place := List String

/-- What stands at a place.  A directory may refuse to be listed; a file may refuse to tell
when it was modified, and may refuse to be removed. -/
inductive Entry
  | directory (readable : Bool)
  | file (content : String) (modified : Option Moment) (removable : Bool)
  | link (path : String)
deriving DecidableEq, Repr

/-- A file tree. -/
structure Tree where
  entries : List (Place × Entry)
  distinct : (entries.map Prod.fst).Nodup
deriving DecidableEq, Repr

/-- What the system refuses, and why. -/
inductive Refusal
  | notFound
  | alreadyExists
  | notADirectory
  | isADirectory
  | nameTooLong
  | tooManyLinks
  | notPermitted
  | nulInName
deriving DecidableEq, Repr

/-- The wording of a refusal. -/
def Refusal.message : Refusal → String
  | .notFound => "No such file or directory (os error 2)"
  | .alreadyExists => "File exists (os error 17)"
  | .notADirectory => "Not a directory (os error 20)"
  | .isADirectory => "Is a directory (os error 21)"
  | .nameTooLong => "File name too long (os error 36)"
  | .tooManyLinks => "Too many levels of symbolic links (os error 40)"
  | .notPermitted => "Operation not permitted (os error 1)"
  | .nulInName => "file name contained an unexpected NUL byte"

/-! ## Trees -/

namespace Tree

/-- The tree that holds nothing. -/
def empty : Tree := ⟨[], List.nodup_nil⟩

/-- What stands at a place. -/
def get? (t : Tree) (place : Place) : Option Entry :=
  if place = [] then some (.directory true)
  else (t.entries.find? fun e => e.1 = place).map Prod.snd

/-- The table with an entry at a place: in the row of what stood there, else in a last row.
-/
def putInto (place : Place) (entry : Entry) : List (Place × Entry) → List (Place × Entry)
  | [] => [(place, entry)]
  | e :: rest =>
      if e.1 = place then (place, entry) :: rest else e :: putInto place entry rest

theorem map_fst_putInto (place : Place) (entry : Entry) (entries : List (Place × Entry)) :
    (putInto place entry entries).map Prod.fst =
      if place ∈ entries.map Prod.fst then entries.map Prod.fst
      else entries.map Prod.fst ++ [place] := by
  induction entries with
  | nil => simp [putInto]
  | cons e rest ih =>
    by_cases he : e.1 = place
    · simp [putInto, he]
    · simp only [putInto, if_neg he, List.map_cons, ih, List.mem_cons, Ne.symm he, false_or]
      split <;> simp

theorem nodup_putInto (place : Place) (entry : Entry) {entries : List (Place × Entry)}
    (h : (entries.map Prod.fst).Nodup) :
    ((putInto place entry entries).map Prod.fst).Nodup := by
  rw [map_fst_putInto]
  split
  next => exact h
  next habsent =>
    refine List.nodup_append.2 ⟨h, by simp, fun other hother here hhere => ?_⟩
    rintro rfl
    exact habsent (List.mem_singleton.1 hhere ▸ hother)

/-- The tree with an entry at a place, instead of what stood there. -/
def put (t : Tree) (place : Place) (entry : Entry) : Tree :=
  ⟨putInto place entry t.entries, nodup_putInto place entry t.distinct⟩

/-- The tree without the places that are not to be kept. -/
def keep (t : Tree) (kept : Place → Bool) : Tree :=
  ⟨t.entries.filter fun e => kept e.1, t.distinct.sublist (List.filter_sublist.map Prod.fst)⟩

/-- The tree without what stands at a place. -/
def erase (t : Tree) (place : Place) : Tree := t.keep (· ≠ place)

/-- The names in a directory. -/
def names (t : Tree) (place : Place) : List String :=
  t.entries.filterMap fun e => if e.1.dropLast = place then e.1.getLast? else none

/-! ### Looking up after a change -/

/-- The top is a directory. -/
@[simp] theorem get?_nil (t : Tree) : t.get? [] = some (.directory true) := rfl

/-- In what is kept of a table a place is found as before, or not at all. -/
theorem find?_filter_fst (kept : Place → Bool) (place : Place) (entries : List (Place × Entry)) :
    (entries.filter fun e => kept e.1).find? (fun e => e.1 = place) =
      if kept place then entries.find? fun e => e.1 = place else none := by
  have htest : (fun e : Place × Entry => decide (kept e.1 = true ∧ decide (e.1 = place) = true)) =
      fun e => kept place && decide (e.1 = place) := by
    funext e
    by_cases he : e.1 = place <;> simp [he]
  rw [List.find?_filter, htest]
  cases kept place <;> simp

/-- In the table with an entry at a place the entry is found there. -/
theorem find?_putInto_self (place : Place) (entry : Entry) (entries : List (Place × Entry)) :
    (putInto place entry entries).find? (fun e => e.1 = place) = some (place, entry) := by
  induction entries with
  | nil => simp [putInto]
  | cons e rest ih =>
    by_cases he : e.1 = place
    · simp [putInto, he]
    · simp [putInto, he, ih]

/-- In the table with an entry at a place all other places are as they were. -/
theorem find?_putInto_of_ne {place other : Place} (h : other ≠ place) (entry : Entry)
    (entries : List (Place × Entry)) :
    (putInto place entry entries).find? (fun e => e.1 = other) =
      entries.find? fun e => e.1 = other := by
  induction entries with
  | nil => simp [putInto, Ne.symm h]
  | cons e rest ih =>
    by_cases he : e.1 = place
    · simp [putInto, he, Ne.symm h]
    · simp [putInto, he, List.find?_cons, ih]

theorem get?_put_self (t : Tree) {place : Place} (h : place ≠ []) (entry : Entry) :
    (t.put place entry).get? place = some entry := by
  unfold get? put
  rw [if_neg h, find?_putInto_self]
  rfl

theorem get?_put_of_ne (t : Tree) {place other : Place} (h : other ≠ place) (entry : Entry) :
    (t.put place entry).get? other = t.get? other := by
  unfold get? put
  rw [find?_putInto_of_ne h]

theorem get?_keep (t : Tree) (kept : Place → Bool) (place : Place) :
    (t.keep kept).get? place = if place = [] ∨ kept place then t.get? place else none := by
  unfold get? keep
  by_cases hplace : place = []
  · simp [hplace]
  · rw [find?_filter_fst]
    cases hkept : kept place <;> simp [hplace]

theorem get?_erase_self (t : Tree) {place : Place} (h : place ≠ []) :
    (t.erase place).get? place = none := by
  simp [erase, get?_keep, h]

theorem get?_erase_of_ne (t : Tree) {place other : Place} (h : other ≠ place) :
    (t.erase place).get? other = t.get? other := by
  simp [erase, get?_keep, h]

end Tree

/-! ## Listings -/

namespace Tree

/-- What a listing shows for an entry below a place. -/
def describe (below : Place) (entry : Entry) : String :=
  let name := "/".intercalate below
  match entry with
  | .directory _ => name ++ "/"
  | .file .. => name
  | .link target => name ++ " -> " ++ target

/-- The entries below a place, in order of their written form. -/
def listing (t : Tree) (place : Place) : List String :=
  (t.entries.filterMap fun e =>
    if place.isPrefixOf e.1 ∧ place ≠ e.1 then some (describe (e.1.drop place.length) e.2)
    else none).mergeSort fun a b => decide (a ≤ b)

/-- The files below a place, with their names and contents. -/
def files (t : Tree) (place : Place) : List (String × String) :=
  t.entries.filterMap fun e =>
    match e.2 with
    | .file content _ _ =>
        if place.isPrefixOf e.1 then some ("/".intercalate (e.1.drop place.length), content)
        else none
    | _ => none

end Tree

end Files

end ShipTelemetry
