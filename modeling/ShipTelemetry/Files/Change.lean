import ShipTelemetry.Files.Walk

/-!
# Changing file trees

Directories and links are made at the free name that a path ends in, and a file is written
where its path leads.  What is refused leaves the tree as it was, but for directories made
on the way.
-/

namespace ShipTelemetry.Files.Tree

/-! ## New entries -/

/-- What a new entry is going to be.  A slash after its name suits a directory only. -/
inductive Novelty
  | directory
  | link
deriving DecidableEq, Repr

/-- The place for a new entry of this name in a directory. -/
def vacancyIn (t : Tree) (novelty : Novelty) (here : Place) (name : String) (slash : Bool) :
    Except Refusal Place :=
  if name = "." ∨ name = ".." then .error .alreadyExists
  else if Path.maxNameBytes < name.utf8ByteSize then .error .nameTooLong
  else if (t.get? (here ++ [name])).isSome then .error .alreadyExists
  else if novelty = .link ∧ slash then .error .notFound
  else .ok (here ++ [name])

/-- The free place that a path ends in. -/
def vacancy (t : Tree) (novelty : Novelty) (path : Path) : Except Refusal Place :=
  match path.refusal?, path.split? with
  | some e, _ => .error e
  | none, none => .error .alreadyExists
  | none, some last =>
      match t.walk .find maxLinks [] last.front with
      | .error e => .error e
      | .ok (.free _) => .error .notFound
      | .ok (.found here _) =>
          match t.get? here with
          | some (.directory _) => t.vacancyIn novelty here last.name last.slash
          | _ => .error .notADirectory

/-- Makes one directory. -/
def makeDirectory (t : Tree) (path : Path) : Except Refusal Tree :=
  match t.vacancy .directory path with
  | .error e => .error e
  | .ok place => .ok (t.put place (.directory true))

/-- Makes a link. -/
def makeLink (t : Tree) (path : Path) (target : String) : Except Refusal Tree :=
  if path.holdsNul then .error .nulInName
  else
    match (Path.ofText target).refusal? with
    | some e => .error e
    | none =>
        match t.vacancy .link path with
        | .error e => .error e
        | .ok place => .ok (t.put place (.link target))

/-! ## Directories on the way -/

/-- Makes a directory, unless there is one. -/
def ensureDirectory (t : Tree) (path : Path) : Except Refusal Tree :=
  match t.makeDirectory path with
  | .ok made => .ok made
  | .error e => if t.isDirectory path then .ok t else .error e

/-- Makes the directory that the first of these paths leads to.  Where it cannot be made
because there is none above it, the second path is made first, and so on.  What has been
made stays, also when a later one cannot be. -/
def makeLineage (t : Tree) : List Path → Tree × Except Refusal Unit
  | [] => (t, .ok ())
  | path :: higher =>
      match t.makeDirectory path with
      | .ok made => (made, .ok ())
      | .error .notFound =>
          match makeLineage t higher with
          | (above, .error e) => (above, .error e)
          | (above, .ok ()) =>
              match above.ensureDirectory path with
              | .ok made => (made, .ok ())
              | .error e => (above, .error e)
      | .error e => (t, if t.isDirectory path then .ok () else .error e)

/-- Makes a directory and those above it that are missing; for an empty path there is
nothing to make. -/
def makeDirectories (t : Tree) (path : Path) : Tree × Except Refusal Unit :=
  if path.bytes = 0 then (t, .ok ()) else t.makeLineage path.lineage

/-! ## Files -/

/-- Writes a file, which is made if it is missing. -/
def writeFile (t : Tree) (path : Path) (now : Moment) (content : String) : Except Refusal Tree :=
  match t.locate .make path with
  | .error e => .error e
  | .ok (.free place) => .ok (t.put place (.file content (some now) true))
  | .ok (.found place _) =>
      match t.get? place with
      | some (.file _ _ removable) => .ok (t.put place (.file content (some now) removable))
      | _ => .error .isADirectory

/-- Opens a file for appending, which is made if it is missing. -/
def openFile (t : Tree) (path : Path) (now : Moment) : Except Refusal Tree :=
  match t.locate .make path with
  | .error e => .error e
  | .ok (.free place) => .ok (t.put place (.file "" (some now) true))
  | .ok (.found place _) =>
      match t.get? place with
      | some (.file ..) => .ok t
      | _ => .error .isADirectory

/-- Adds to the end of a file, if there is one. -/
def appendFile (t : Tree) (path : Path) (now : Moment) (text : String) : Tree :=
  match t.locate .find path with
  | .ok (.found place _) =>
      match t.get? place with
      | some (.file content _ removable) =>
          t.put place (.file (content ++ text) (some now) removable)
      | _ => t
  | _ => t

/-! ## Removal -/

/-- Removes the file or the link at a place. -/
def remove (t : Tree) (place : Place) : Except Refusal Tree :=
  match t.get? place with
  | none => .error .notFound
  | some (.directory _) => .error .isADirectory
  | some (.file _ _ removable) => if removable then .ok (t.erase place) else .error .notPermitted
  | some (.link _) => .ok (t.erase place)

end ShipTelemetry.Files.Tree
