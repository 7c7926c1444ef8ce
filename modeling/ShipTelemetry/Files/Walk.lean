import ShipTelemetry.Files.Basic

/-!
# Walking paths

A path is written as names with slashes between them.  Two spellings may lead to the same
place and still not be the same path: a slash after the last name asks for a directory, a
`.` must stand behind one, and both count for the length of the path.  So a path keeps
everything that is written.

The path above another one is cut off at its last name: pieces that stay where they are
have no part in it, neither behind that name nor before it.  So the path above `a/b/.` is
`a`.

A path may hold `..` and may lead through links.  Walking it gives the place that it leads
to.  Links are followed, at most forty in one walk.  Whatever stands before a slash must be
a directory, also when nothing follows the slash; and whoever walks in order to make a file
is refused at once where a slash follows the last name.
-/

namespace ShipTelemetry.Files

/-- A path as it is written: the pieces between its slashes.  An empty piece stands at the
beginning of a path from the top, after a slash at the end, and where two slashes meet. -/
abbrev Path := List String

namespace Path

/-! ## Written paths -/

/-- The pieces of a written path. -/
def ofText (text : String) : Path := (text.toList.splitOn '/').map String.ofList

/-- The number of bytes in the written path. -/
def bytes (p : Path) : Nat :=
  p.foldr (fun piece bytes => piece.utf8ByteSize + bytes) (p.length - 1)

/-- A path written from the top. -/
def isFromTop (text : String) : Bool := text.toList.head? = some '/'

/-- A path written after another one. -/
def join (first second : String) : String :=
  if isFromTop second || first = "" then second
  else if first.toList.getLast? = some '/' then first ++ second
  else first ++ "/" ++ second

/-! ## Parts -/

/-- A piece that leads from a directory to the same directory. -/
def isStill (piece : String) : Bool := piece = "" || piece = "."

/-- The path without the pieces at its end that stay where they are. -/
def bare (p : Path) : Path := (p.reverse.dropWhile isStill).reverse

/-- The path above: what stands before the last name. -/
def above (p : Path) : Path := bare (bare p).dropLast

/-- A path and at most `n` of those above it, from below. -/
def upwards : Nat → Path → List Path
  | 0, p => [p]
  | n + 1, p => p :: if above p = [] then [] else upwards n (above p)

/-- A path and all those above it, from below. -/
def lineage (p : Path) : List Path := upwards p.length p

/-- A path taken apart at its last name. -/
structure Split where
  front : Path
  name : String
  slash : Bool
deriving DecidableEq, Repr

/-- Takes a path apart at its last name, which may be `.` or `..`; there is none in a path
of slashes only. -/
def split? (p : Path) : Option Split :=
  match p.reverse.dropWhile (· = "") with
  | [] => none
  | name :: front => some { front := front.reverse, name, slash := p.getLast? = some "" }

/-! ## Limits -/

/-- The most bytes in a path. -/
def maxBytes : Nat := 4095

/-- The most bytes in a name. -/
def maxNameBytes : Nat := 255

/-- The path holds the null character. -/
def holdsNul (p : Path) : Bool := p.any fun piece => piece.toList.contains '\x00'

/-- Why a path is refused before it is walked. -/
def refusal? (p : Path) : Option Refusal :=
  if p.holdsNul then some .nulInName
  else if p.bytes = 0 then some .notFound
  else if maxBytes < p.bytes then some .nameTooLong
  else none

end Path

namespace Tree

/-! ## Walks -/

/-- The most links that a walk follows. -/
def maxLinks : Nat := 40

/-- Where a walk ends: at something that is no link, with a number of links that could still
have been followed, or at a free name in a directory. -/
inductive Walk
  | found (place : Place) (links : Nat)
  | free (place : Place)
deriving DecidableEq, Repr

/-- What a walk is for: to find something, or to make a file where there is none. -/
inductive Purpose
  | find
  | make
deriving DecidableEq, Repr

/-- The directory from which the path of a link is walked, given the directory that the link
stands in. -/
def linkBase (here : Place) (target : String) : Place :=
  if Path.isFromTop target then [] else here

/-- Nothing but slashes follows. -/
def isAtEnd (rest : Path) : Bool := rest.all (· = "")

/-- Walks a path from a directory to its end, or to the first link.  There `jump` takes
over, with the directory that the path of the link is walked from, and that path before the
pieces left.  `links` says how many links there are left. -/
def walkToLink (t : Tree) (purpose : Purpose) (links : Nat)
    (jump : Place → Path → Except Refusal Walk) : Place → Path → Except Refusal Walk
  | here, [] => .ok (.found here links)
  | here, name :: rest =>
      if Path.isStill name then walkToLink t purpose links jump here rest
      else if name = ".." then walkToLink t purpose links jump here.dropLast rest
      else if purpose = .make ∧ rest ≠ [] ∧ isAtEnd rest then .error .isADirectory
      else if Path.maxNameBytes < name.utf8ByteSize then .error .nameTooLong
      else
        match t.get? (here ++ [name]) with
        | none => if isAtEnd rest then .ok (.free (here ++ [name])) else .error .notFound
        | some (.directory _) => walkToLink t purpose links jump (here ++ [name]) rest
        | some (.file ..) =>
            if rest = [] then .ok (.found (here ++ [name]) links) else .error .notADirectory
        | some (.link target) => jump (linkBase here target) (Path.ofText target ++ rest)

/-- Walks a path from a directory, following at most so many links. -/
def walk (t : Tree) (purpose : Purpose) : Nat → Place → Path → Except Refusal Walk
  | 0 => t.walkToLink purpose 0 fun _ _ => .error .tooManyLinks
  | links + 1 => t.walkToLink purpose (links + 1) (walk t purpose links)

/-! ## From the top -/

/-- The place a path leads to. -/
def locate (t : Tree) (purpose : Purpose) (path : Path) : Except Refusal Walk :=
  match path.refusal? with
  | some e => .error e
  | none => t.walk purpose maxLinks [] path

/-- What a path leads to. -/
def stat? (t : Tree) (path : Path) : Option Entry :=
  match t.locate .find path with
  | .ok (.found place _) => t.get? place
  | _ => none

/-- A path leads to a directory. -/
def isDirectory (t : Tree) (path : Path) : Bool :=
  match t.stat? path with
  | some (.directory _) => true
  | _ => false

/-! ## From an entry -/

/-- Where the entry at a place leads to: a link as far as its path does, anything else to
itself. -/
def resolve (t : Tree) (links : Nat) (place : Place) : Except Refusal Walk :=
  match t.get? place, links with
  | none, _ => .ok (.free place)
  | some (.link _), 0 => .error .tooManyLinks
  | some (.link target), left + 1 =>
      t.walk .find left (linkBase place.dropLast target) (Path.ofText target)
  | some _, _ => .ok (.found place links)

end Tree

end ShipTelemetry.Files
