/-!
# Patterns

A pattern describes texts: by characters, by where something stands in a text, and by
sequence, choice and repetition.  A pattern fits a text when it describes the end of it,
from any character on.

Characters are described by sets, which are built from ranges of code points by the usual
operations.
-/

namespace ShipTelemetry

/-! ## Sets of characters -/

/-- A set of characters. -/
inductive CharSet
  | ranges (list : List (Nat × Nat))
  | complement (s : CharSet)
  | union (s t : CharSet)
  | intersection (s t : CharSet)
  | difference (s t : CharSet)
  | symmetric (s t : CharSet)
  | folded (s : CharSet)
deriving DecidableEq, Repr

namespace CharSet

/-- The set without any character. -/
def empty : CharSet := .ranges []

/-- The set of one character. -/
def single (c : Char) : CharSet := .ranges [(c.toNat, c.toNat)]

/-- The set of all characters between two, both included. -/
def between (first last : Char) : CharSet := .ranges [(first.toNat, last.toNat)]

/-- The set of these characters. -/
def ofList (cs : List Char) : CharSet := .ranges (cs.map fun c => (c.toNat, c.toNat))

/-- A character belongs to a set.  In a folded set the case of ASCII letters does not
count. -/
def contains : CharSet → Char → Bool
  | ranges list, c => list.any fun range => range.1 ≤ c.toNat && c.toNat ≤ range.2
  | complement s, c => !s.contains c
  | union s t, c => s.contains c || t.contains c
  | intersection s t, c => s.contains c && t.contains c
  | difference s t, c => s.contains c && !t.contains c
  | symmetric s t, c => s.contains c != t.contains c
  | folded s, c => s.contains c.toLower || s.contains c.toUpper

/-! ### Named sets -/

/-- The decimal digits of ASCII. -/
def digits : CharSet := between '0' '9'

/-- The lower-case letters of ASCII. -/
def lowers : CharSet := between 'a' 'z'

/-- The upper-case letters of ASCII. -/
def uppers : CharSet := between 'A' 'Z'

/-- The letters of ASCII. -/
def letters : CharSet := union lowers uppers

/-- The characters of words: letters, digits and the underscore. -/
def words : CharSet := union (union letters digits) (single '_')

/-- The blanks of ASCII. -/
def blanks : CharSet := union (single ' ') (between '\t' '\r')

/-- The sets that have a name. -/
def named : List (String × CharSet) :=
  [("alnum", union letters digits), ("alpha", letters), ("ascii", between '\x00' '\x7f'),
   ("blank", ofList ['\t', ' ']), ("cntrl", union (between '\x00' '\x1f') (single '\x7f')),
   ("digit", digits), ("graph", between '!' '~'), ("lower", lowers), ("print", between ' ' '~'),
   ("punct", difference (between '!' '~') (union letters digits)), ("space", blanks),
   ("upper", uppers), ("word", words),
   ("xdigit", union digits (union (between 'a' 'f') (between 'A' 'F')))]

/-- The set of a name. -/
def named? (name : List Char) : Option CharSet :=
  (named.find? fun entry => entry.1.toList = name).map Prod.snd

end CharSet

/-! ## Patterns -/

/-- A condition on a position between two characters. -/
inductive Edge
  | textStart
  | textEnd
  | lineStart (carriageReturns : Bool)
  | lineEnd (carriageReturns : Bool)
  | wordEdge
  | wordInside
  | wordStart
  | wordEnd
deriving DecidableEq, Repr

namespace Edge

/-- There is a character of a word. -/
def isWord (c : Option Char) : Bool := c.any CharSet.words.contains

/-- A line starts between two characters. -/
def startsLine (carriageReturns : Bool) (before after : Option Char) : Bool :=
  before = none || before = some '\n' ||
    (carriageReturns && before = some '\r' && after ≠ some '\n')

/-- A line ends between two characters. -/
def endsLine (carriageReturns : Bool) (before after : Option Char) : Bool :=
  if carriageReturns then
    after = none || after = some '\r' || (after = some '\n' && before ≠ some '\r')
  else after = none || after = some '\n'

/-- The condition holds between two characters, where nothing stands beyond the ends of the
text. -/
def holds (before after : Option Char) : Edge → Bool
  | textStart => before = none
  | textEnd => after = none
  | lineStart carriageReturns => startsLine carriageReturns before after
  | lineEnd carriageReturns => endsLine carriageReturns before after
  | wordEdge => isWord before != isWord after
  | wordInside => isWord before == isWord after
  | wordStart => !isWord before && isWord after
  | wordEnd => isWord before && !isWord after

end Edge

/-- A pattern. -/
inductive Pattern
  | nothing
  | one (set : CharSet)
  | edge (e : Edge)
  | sequence (p q : Pattern)
  | choice (p q : Pattern)
  | many (p : Pattern)
deriving DecidableEq, Repr

namespace Pattern

/-- A pattern that may be left out. -/
def optional (p : Pattern) : Pattern := .choice p .nothing

/-- A pattern once or more often. -/
def atLeastOnce (p : Pattern) : Pattern := .sequence p (.many p)

/-- The character before a position. -/
def before? (text : List Char) : Nat → Option Char
  | 0 => none
  | i + 1 => text[i]?

/-- All positions reached from some, by at most so many steps. -/
def reachable (step : Nat → List Nat) : Nat → List Nat → List Nat
  | 0, found => found
  | n + 1, found => reachable step n (found ++ found.flatMap step).eraseDups

/-- The positions at which what a pattern describes may end, when it begins at a position.
-/
def ends (text : List Char) : Pattern → Nat → List Nat
  | nothing, i => [i]
  | one set, i => if (text[i]?).any set.contains then [i + 1] else []
  | edge e, i => if e.holds (before? text i) text[i]? then [i] else []
  | sequence p q, i => ((ends text p i).flatMap (ends text q)).eraseDups
  | choice p q, i => (ends text p i ++ ends text q i).eraseDups
  | many p, i => reachable (ends text p) text.length [i]

/-- A pattern describes the end of a text. -/
def fits (p : Pattern) (text : List Char) : Bool :=
  (List.range (text.length + 1)).any fun i => (p.ends text i).contains text.length

end Pattern

end ShipTelemetry
