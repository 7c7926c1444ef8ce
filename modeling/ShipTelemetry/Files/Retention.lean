import ShipTelemetry.Files.Change

/-!
# Keeping logs for a while

Logs are kept for a number of days and swept from time to time.  A sweep looks at everything
below the log directory, into directories that links lead to as well, and removes each file
that was last modified before a cutoff; a link to a file is judged by that file, and the
link itself is removed.  Directories stay, and whatever cannot be looked at or removed is
left alone.

A directory is listed when the sweep comes to it, and each of its entries is looked at in turn:
a directory, or a link to one, is swept at once, anything else is judged and perhaps removed,
and then comes the next entry.  The length of the paths on the way is not limited.
-/

namespace ShipTelemetry.Files

/-! ## Sweeps -/

/-- Something that a sweep has met: its place, and how many links could still be followed
there. -/
structure Candidate where
  place : Place
  links : Nat
deriving DecidableEq, Repr

namespace Tree

/-- The directory that an entry leads to. -/
def directory? (t : Tree) (c : Candidate) : Option Candidate :=
  match t.resolve c.links c.place with
  | .ok (.found place links) =>
      match t.get? place with
      | some (.directory _) => some { place, links }
      | _ => none
  | _ => none

/-- When the file that an entry leads to was modified. -/
def modified? (t : Tree) (c : Candidate) : Option Moment :=
  match t.resolve c.links c.place with
  | .ok (.found place _) =>
      match t.get? place with
      | some (.file _ modified _) => modified
      | _ => none
  | _ => none

/-- The entries of a directory, if it can be listed. -/
def children (t : Tree) (c : Candidate) : List Candidate :=
  match t.get? c.place with
  | some (.directory true) =>
      (t.names c.place).map fun name => { c with place := c.place ++ [name] }
  | _ => []

/-- A depth that no sweep goes beyond: between two links it only goes down. -/
def reach (t : Tree) : Nat := (maxLinks + 1) * (t.entries.length + 1)

/-- Removes an entry, if it is stale and can be removed, and counts it. -/
def pruneOne (cutoff : Moment) (state : Tree × Nat) (c : Candidate) : Tree × Nat :=
  match state.1.modified? c with
  | none => state
  | some modified =>
      if modified.isBefore cutoff then
        match state.1.remove c.place with
        | .ok next => (next, state.2 + 1)
        | .error _ => state
      else state

/-- Removes what is stale in a directory, and in those that its entries lead to, down to a
depth. -/
def pruneIn (cutoff : Moment) : Nat → Candidate → Tree × Nat → Tree × Nat
  | 0, _, state => state
  | depth + 1, c, state =>
      (state.1.children c).foldl (fun state child =>
        match state.1.directory? child with
        | some below => pruneIn cutoff depth below state
        | none => pruneOne cutoff state child) state

/-- Removes what is stale below a path: the tree left, and how many were removed. -/
def prune (t : Tree) (path : Path) (cutoff : Moment) : Tree × Nat :=
  match t.locate .find path with
  | .ok (.found place links) => pruneIn cutoff t.reach { place, links } (t, 0)
  | _ => (t, 0)

end Tree

/-! ## Turns -/

/-- One turn of a cleanup: what the clock shows, and what others have done to the tree since
the turn before. -/
structure Turn where
  now : Moment
  change : Tree → Tree

/-- A sweep that has been made: when, and the tree before and after it. -/
structure Swept where
  now : Moment
  before : Tree
  after : Tree

/-- What others make of a tree in some turns. -/
def changed (t : Tree) (turns : List Turn) : Tree :=
  turns.foldl (fun t turn => turn.change t) t

/-! ## Plans -/

/-- How long files are kept, and how long it takes to the next sweep, in seconds. -/
structure Plan where
  retention : Nat
  interval : Nat
deriving DecidableEq, Repr

/-- A number of seconds does not fit into 64 bits. -/
inductive Overflow
  | multiply
deriving DecidableEq, Repr

/-- The wording of an overflow. -/
def Overflow.message : Overflow → String
  | .multiply => "attempt to multiply with overflow"

namespace Plan

/-- The greatest number of seconds. -/
def maxSeconds : Nat := UInt64.size - 1

/-- A product of seconds that must not exceed the greatest number of them. -/
def times (a b : Nat) : Except Overflow Nat :=
  if a * b ≤ maxSeconds then .ok (a * b) else .error .multiply

/-- The seconds of so many days, by way of their hours and minutes. -/
def secondsOfDays (days : Nat) : Except Overflow Nat := do
  let hours ← times days 24
  let minutes ← times hours 60
  times minutes 60

/-- The plan for a retention in days and an interval in minutes; no plan if either is zero.
-/
def ofSettings (days minutes : Nat) : Except Overflow (Option Plan) :=
  if days = 0 ∨ minutes = 0 then .ok none
  else do
    let retention ← secondsOfDays days
    let interval ← times minutes 60
    return some { retention, interval }

/-- The earliest second of the clock. -/
def firstSecond : Int := -0x8000000000000000

/-- The moment before which files are stale, if the clock reaches back that far. -/
def cutoff? (p : Plan) (now : Moment) : Option Moment :=
  if firstSecond ≤ now.seconds - p.retention then
    some ⟨now.nanos - p.retention * 1000000000⟩
  else none

/-- One sweep below a path. -/
def sweep (p : Plan) (t : Tree) (path : Path) (now : Moment) : Tree × Nat :=
  match p.cutoff? now with
  | none => (t, 0)
  | some cutoff => t.prune path cutoff

/-- Sweeps below a path, once in each turn: the sweeps made, and the tree at the end. -/
def sweeps (p : Plan) (path : Path) : Tree → List Turn → List Swept × Tree
  | t, [] => ([], t)
  | t, turn :: rest =>
      let before := turn.change t
      let after := (p.sweep before path turn.now).1
      let (more, last) := sweeps p path after rest
      ({ now := turn.now, before, after } :: more, last)

/-- The cleanup that a retention in days and an interval in minutes ask for.  Without a plan
nothing is ever swept, and the tree is what others make of it. -/
def cleanup (days minutes : Nat) (path : Path) (t : Tree) (turns : List Turn) :
    Except Overflow (List Swept × Tree) :=
  match ofSettings days minutes with
  | .error e => .error e
  | .ok none => .ok ([], changed t turns)
  | .ok (some plan) => .ok (plan.sweeps path t turns)

end Plan

end ShipTelemetry.Files
