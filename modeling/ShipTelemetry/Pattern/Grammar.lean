import ShipTelemetry.Pattern.Basic
import ShipTelemetry.Text.Basic
import ShipTelemetry.Text.Letter

/-!
# Reading patterns

Patterns are written as regular expressions: `|` between choices, `*`, `+` and `?` after
what is repeated, `(…)` around groups, `[…]` around sets of characters, `^` and `$` for the
ends, `.` for any character, and a backslash before everything that does not stand for
itself.  Groups may be named, and `(?i)` and the like switch modes to the end of the group
around them.

Some things that other regular expressions have cannot be written: counted repetition, which
needs a closing brace; looking ahead and referring back; and whatever needs to know about
characters beyond ASCII, that is `\d`, `\s`, `\w`, `\p`, the edges of words, and letters of
either case, unless the mode `u` is switched off.  Where that mode is off, on the other
hand, nothing can be written that goes beyond ASCII in a set.
-/

namespace ShipTelemetry.Pattern

/-! ## Modes -/

/-- The modes that are switched on and off inside a pattern. -/
structure Mode where
  insensitive : Bool := false
  lines : Bool := false
  dotAll : Bool := false
  carriageReturns : Bool := false
  unicode : Bool := true
  verbose : Bool := false
deriving DecidableEq, Repr

namespace Mode

/-- Letters of either case are looked up beyond ASCII, where nothing is known of them. -/
def foldsBeyond (m : Mode) : Bool := m.insensitive && m.unicode

/-- The mode after one letter of a switch. -/
def switch? (m : Mode) (on : Bool) : Char → Option Mode
  | 'i' => some { m with insensitive := on }
  | 'm' => some { m with lines := on }
  | 's' => some { m with dotAll := on }
  | 'U' => some m
  | 'u' => some { m with unicode := on }
  | 'R' => some { m with carriageReturns := on }
  | 'x' => some { m with verbose := on }
  | _ => none

end Mode

/-- Leaves out blanks and comments. -/
def skip (comment : Bool) : List Char → List Char
  | [] => []
  | c :: rest =>
      if comment then skip (c ≠ '\n') rest
      else if Text.isBlank c then skip false rest
      else if c = '#' then skip true rest
      else c :: rest

/-- Leaves out blanks and comments where the mode says so. -/
def skipIn (m : Mode) (cs : List Char) : List Char := if m.verbose then skip false cs else cs

/-! ## Escapes -/

/-- What a backslash introduces: a character, perhaps given as a byte; a set; or an edge. -/
inductive Escape
  | char (c : Char) (byte : Bool)
  | set (s : CharSet)
  | edge (e : Edge)
deriving DecidableEq, Repr

/-- The character of this code point. -/
def charOf? (code : Nat) : Option Char :=
  if code.isValidChar then some (Char.ofNat code) else none

/-- Reads this many hexadecimal digits. -/
def readHex? (m : Mode) : Nat → Nat → List Char → Option (Nat × List Char)
  | 0, value, cs => some (value, cs)
  | n + 1, value, cs =>
      match skipIn m cs with
      | [] => none
      | c :: rest =>
          match Text.hexValue? c.toNat with
          | none => none
          | some digit => readHex? m n (16 * value + digit) rest

/-- Reads the digits of a character given by its number. -/
def readCode? (m : Mode) (digits : Nat) (cs : List Char) : Option (Escape × List Char) :=
  match readHex? m digits 0 cs with
  | none => none
  | some (code, rest) => (charOf? code).map fun c => (.char c (digits = 2), skipIn m rest)

/-- A character that stands for itself after a backslash. -/
def isEscapable (c : Char) : Bool :=
  c.toNat < 0x80 && !c.isAlphanum && c ≠ '<' && c ≠ '>'

/-- The sets that one letter stands for, known only in ASCII. -/
def letterSet? (m : Mode) (c : Char) : Option Escape :=
  if m.unicode then none
  else
    match c with
    | 'd' => some (.set .digits)
    | 's' => some (.set .blanks)
    | 'w' => some (.set .words)
    | _ => none

/-- The edges of words, known only in ASCII. -/
def wordEdge? (m : Mode) (c : Char) : Option Escape :=
  if m.unicode then none
  else
    match c with
    | 'b' => some (.edge .wordEdge)
    | 'B' => some (.edge .wordInside)
    | '<' => some (.edge .wordStart)
    | '>' => some (.edge .wordEnd)
    | _ => none

/-- What a single character after a backslash stands for. -/
def simpleEscape? (m : Mode) (c : Char) : Option Escape :=
  if isEscapable c then some (.char c false)
  else
    match c with
    | 'a' => some (.char '\x07' false)
    | 'f' => some (.char '\x0c' false)
    | 't' => some (.char '\t' false)
    | 'n' => some (.char '\n' false)
    | 'r' => some (.char '\r' false)
    | 'v' => some (.char '\x0b' false)
    | 'A' => some (.edge .textStart)
    | 'z' => some (.edge .textEnd)
    | c => (letterSet? m c).or (wordEdge? m c)

/-- Reads what follows a backslash. -/
def readEscape? (m : Mode) : List Char → Option (Escape × List Char)
  | [] => none
  | 'x' :: rest => readCode? m 2 rest
  | 'u' :: rest => readCode? m 4 rest
  | 'U' :: rest => readCode? m 8 rest
  | c :: rest => (simpleEscape? m c).map fun e => (e, rest)

/-! ## Sets in brackets -/

/-- An operation between sets in brackets. -/
inductive Operation
  | intersection
  | difference
  | symmetric
deriving DecidableEq, Repr

/-- The result of an operation. -/
def Operation.apply : Operation → CharSet → CharSet → CharSet
  | intersection => .intersection
  | difference => .difference
  | symmetric => .symmetric

/-- What has been read of a set in brackets: whether it is turned around, the operation that
waits for its second set, and the set since then. -/
structure Bracket where
  negated : Bool
  waiting : Option (Operation × CharSet) := none
  items : CharSet := .empty
deriving DecidableEq, Repr

namespace Bracket

/-- Takes in one more item. -/
def add (b : Bracket) (s : CharSet) : Bracket := { b with items := .union b.items s }

/-- The set read so far. -/
def set (b : Bracket) : CharSet :=
  match b.waiting with
  | none => b.items
  | some (operation, first) => operation.apply first b.items

/-- Begins the second set of an operation. -/
def await (b : Bracket) (operation : Operation) : Bracket :=
  { b with waiting := some (operation, b.set), items := .empty }

/-- The set at the closing bracket. -/
def close? (b : Bracket) (m : Mode) : Option CharSet :=
  if m.foldsBeyond || (b.negated && !m.unicode) then none
  else
    let s := if m.insensitive then .folded b.set else b.set
    some (if b.negated then .complement s else s)

end Bracket

/-- Takes in minus signs at the beginning, where they stand for themselves. -/
def readMinuses (m : Mode) (b : Bracket) : List Char → Bracket × List Char
  | [] => (b, [])
  | c :: rest =>
      if c = '-' then readMinuses m (b.add (.single c)) rest
      else if m.verbose && Text.isBlank c then readMinuses m b rest
      else (b, c :: rest)

/-- Begins a set after its opening bracket.  A closing bracket that comes first stands for
itself. -/
def openBracket (m : Mode) (cs : List Char) : Bracket × List Char :=
  let (negated, inside) : Bool × List Char :=
    match skipIn m cs with
    | '^' :: rest => (true, skipIn m rest)
    | rest => (false, rest)
  match readMinuses m { negated } inside with
  | (b, ']' :: rest) =>
      if b.items = .empty then (b.add (.single ']'), skipIn m rest) else (b, ']' :: rest)
  | (b, rest) => (b, rest)

/-- Reads the name of a set between `[:` and `:]`, after the first bracket. -/
def readNamed? : List Char → Option (CharSet × List Char)
  | ':' :: rest =>
      let (negated, inside) : Bool × List Char :=
        match rest with
        | '^' :: more => (true, more)
        | more => (false, more)
      match inside.dropWhile (· ≠ ':') with
      | ':' :: ']' :: after =>
          (CharSet.named? (inside.takeWhile (· ≠ ':'))).map fun s =>
            (if negated then .complement s else s, after)
      | _ => none
  | _ => none

/-- Reads one character or escape in brackets. -/
def readMember? (m : Mode) : List Char → Option (Escape × List Char)
  | [] => none
  | '\\' :: rest => readEscape? m rest
  | c :: rest => some (.char c false, rest)

/-- A character that may stand in brackets in this mode. -/
def isMember (m : Mode) (c : Char) : Bool := m.unicode || c.toNat < 0x80

/-- The set of one member. -/
def memberSet? (m : Mode) : Escape → Option CharSet
  | .char c _ => if isMember m c then some (.single c) else none
  | .set s => some s
  | .edge _ => none

/-- The set of all characters between two members. -/
def rangeSet? (m : Mode) : Escape → Escape → Option CharSet
  | .char first _, .char last _ =>
      if isMember m first && isMember m last && first ≤ last then some (.between first last)
      else none
  | _, _ => none

/-- Reads a member or a range.  A minus sign before a closing bracket or another minus sign
makes no range. -/
def readItem? (m : Mode) (cs : List Char) : Option (CharSet × List Char) :=
  match readMember? m cs with
  | none => none
  | some (first, rest) =>
      match skipIn m rest with
      | '-' :: more =>
          match skipIn m more with
          | [] => none
          | c :: after =>
              if c = ']' || c = '-' then (memberSet? m first).map fun s => (s, '-' :: more)
              else
                match readMember? m (c :: after) with
                | none => none
                | some (last, left) => (rangeSet? m first last).map fun s => (s, left)
      | more => (memberSet? m first).map fun s => (s, more)

/-- Reads the inside of a set in brackets to its end; `outer` are the sets around it.
Every step takes a character, so `fuel` above the length of the text is enough. -/
def readBracket? (m : Mode) :
    Nat → Bracket → List Bracket → List Char → Option (CharSet × List Char)
  | 0, _, _, _ => none
  | fuel + 1, b, outer, cs =>
      match skipIn m cs with
      | [] => none
      | '[' :: rest =>
          match readNamed? rest with
          | some (s, after) => readBracket? m fuel (b.add s) outer after
          | none =>
              let (inner, after) := openBracket m rest
              readBracket? m fuel inner (b :: outer) after
      | ']' :: rest =>
          match b.close? m, outer with
          | none, _ => none
          | some s, [] => some (s, rest)
          | some s, parent :: more => readBracket? m fuel (parent.add s) more rest
      | '&' :: '&' :: rest => readBracket? m fuel (b.await .intersection) outer rest
      | '-' :: '-' :: rest => readBracket? m fuel (b.await .difference) outer rest
      | '~' :: '~' :: rest => readBracket? m fuel (b.await .symmetric) outer rest
      | item =>
          match readItem? m item with
          | none => none
          | some (s, after) => readBracket? m fuel (b.add s) outer after

/-! ## Groups -/

/-- What stands after an opening parenthesis: a switch of modes, or the head of a group. -/
inductive Head
  | switch (m : Mode)
  | group (m : Mode) (names : List (List Char))

/-- A character of the name of a group. -/
def isNameChar (first : Bool) (c : Char) : Bool :=
  c = '_' || (if first then Text.isLetter c
    else Text.isLetterOrNumber c || c = '.' || c = '[' || c = ']')

/-- Reads the name of a group and the angle bracket after it.  No two groups have one name.
-/
def readName? (m : Mode) (names : List (List Char)) (cs : List Char) : Option (Head × List Char) :=
  match cs.takeWhile (· ≠ '>'), cs.dropWhile (· ≠ '>') with
  | first :: more, _ :: rest =>
      if isNameChar true first && more.all (isNameChar false) && !names.contains (first :: more)
      then some (.group m ((first :: more) :: names), rest)
      else none
  | _, _ => none

/-- Reads the letters of a switch, up to a colon or a closing parenthesis.  `on` says
whether they switch on, `seen` what has been read; no letter and no minus sign comes twice.
-/
def readSwitch? (on : Bool) (seen : List Char) (m : Mode) :
    List Char → Option (Mode × Char × List Char)
  | [] => none
  | c :: rest =>
      if c = ':' || c = ')' then
        if seen.head? = some '-' || (c = ')' && seen.isEmpty) then none else some (m, c, rest)
      else if seen.contains c then none
      else if c = '-' then readSwitch? false (c :: seen) m rest
      else
        match m.switch? on c with
        | none => none
        | some next => readSwitch? on (c :: seen) next rest

/-- Reads what stands after an opening parenthesis. -/
def readHead? (m : Mode) (names : List (List Char)) : List Char → Option (Head × List Char)
  | '?' :: 'P' :: '<' :: rest => readName? m names rest
  | '?' :: '<' :: rest => readName? m names rest
  | '?' :: rest =>
      (readSwitch? true [] m rest).map fun (next, stop, after) =>
        (if stop = ':' then .group next names else .switch next, after)
  | cs => some (.group m names, cs)

/-! ## Patterns -/

/-- What has been read of a group: the choices before, the items of this one from the last
to the first, and whether the last of them can be repeated. -/
structure Progress where
  choices : Option Pattern := none
  items : List Pattern := []
  repeatable : Bool := false

namespace Progress

/-- The items of the present choice as one pattern. -/
def current (p : Progress) : Pattern :=
  p.items.foldl (fun after item => .sequence item after) .nothing

/-- All that has been read as one pattern. -/
def pattern (p : Progress) : Pattern :=
  match p.choices with
  | none => p.current
  | some before => .choice before p.current

/-- Begins another choice. -/
def next (p : Progress) : Progress := { choices := some p.pattern }

/-- Takes in one more item. -/
def push (p : Progress) (item : Pattern) : Progress :=
  { p with items := item :: p.items, repeatable := true }

/-- Repeats the last item. -/
def repeat? (p : Progress) (how : Pattern → Pattern) : Option Progress :=
  match p.repeatable, p.items with
  | true, last :: rest => some { p with items := how last :: rest }
  | _, _ => none

end Progress

/-- What the signs of repetition do. -/
def repetition? : Char → Option (Pattern → Pattern)
  | '?' => some optional
  | '*' => some many
  | '+' => some atLeastOnce
  | _ => none

/-- A character that stands for itself. -/
def literal? (m : Mode) (c : Char) (byte : Bool) : Option Pattern :=
  if m.foldsBeyond || (byte && !m.unicode && 0x80 ≤ c.toNat) then none
  else some (.one (if m.insensitive then .folded (.single c) else .single c))

/-- The characters that a point stands for. -/
def dot? (m : Mode) : Option Pattern :=
  if !m.unicode then none
  else if m.dotAll then some (.one (.complement .empty))
  else some (.one (.complement (.ofList (if m.carriageReturns then ['\r', '\n'] else ['\n']))))

/-- Reads one item that is no group, no set in brackets and no repetition. -/
def readAtom? (m : Mode) : List Char → Option (Pattern × List Char)
  | [] => none
  | '.' :: rest => (dot? m).map fun p => (p, rest)
  | '^' :: rest => some (.edge (if m.lines then .lineStart m.carriageReturns else .textStart), rest)
  | '$' :: rest => some (.edge (if m.lines then .lineEnd m.carriageReturns else .textEnd), rest)
  | '\\' :: rest =>
      match readEscape? m rest with
      | none => none
      | some (.char c byte, after) => (literal? m c byte).map fun p => (p, after)
      | some (.set s, after) => some (.one (if m.insensitive then .folded s else s), after)
      | some (.edge e, after) => some (.edge e, after)
  | c :: rest => (literal? m c false).map fun p => (p, rest)

/-- A pattern that has been read, the names of the groups so far, and what is left. -/
structure Reading where
  pattern : Pattern
  names : List (List Char)
  rest : List Char

/-- Reads a group to its closing parenthesis or to the end of the text.  Every step takes a
character, so `fuel` above the length of the text is enough. -/
def readGroup? : Nat → Mode → List (List Char) → Progress → List Char → Option Reading
  | 0, _, _, _, _ => none
  | fuel + 1, m, names, p, cs =>
      match skipIn m cs with
      | [] => some { pattern := p.pattern, names, rest := [] }
      | ')' :: rest => some { pattern := p.pattern, names, rest := ')' :: rest }
      | '|' :: rest => readGroup? fuel m names p.next rest
      | '(' :: rest =>
          match readHead? m names (skipIn m rest) with
          | none => none
          | some (.switch next, after) =>
              readGroup? fuel next names { p with repeatable := false } after
          | some (.group inner more, after) =>
              match readGroup? fuel inner more {} after with
              | some { pattern, names := known, rest := ')' :: left } =>
                  readGroup? fuel m known (p.push pattern) left
              | _ => none
      | '[' :: rest =>
          let (b, inside) := openBracket m rest
          match readBracket? m fuel b [] inside with
          | none => none
          | some (s, after) => readGroup? fuel m names (p.push (.one s)) after
      | '{' :: _ => none
      | c :: rest =>
          match repetition? c with
          | some how =>
              match p.repeat? how with
              | none => none
              | some next =>
                  readGroup? fuel m names next (if rest.head? = some '?' then rest.tail else rest)
          | none =>
              match readAtom? m (c :: rest) with
              | none => none
              | some (item, after) => readGroup? fuel m names (p.push item) after

/-- Reads a pattern that takes up the whole text. -/
def read? (cs : List Char) : Option Pattern :=
  match readGroup? (cs.length + 1) {} [] {} cs with
  | some { pattern, rest := [], .. } => some pattern
  | _ => none

end ShipTelemetry.Pattern
