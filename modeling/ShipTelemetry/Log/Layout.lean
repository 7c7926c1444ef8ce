import ShipTelemetry.Log.Filter
import ShipTelemetry.Text.Basic

/-!
# Log lines

An event is written as time, level, span, target, message and fields.  A message cannot move
the cursor or switch colours: escape, bell, backspace, form feed, delete and the characters
`U+0080`–`U+009F` are written by number.  Fields are written as their values stand.

With colours the time, the targets and the punctuation are dimmed, the level is coloured by
its gravity, span names are bold and field names italic.  The fields of a span are formatted
once for every place a log goes to, so they may be coloured in a log that is otherwise
plain.

A capture keeps what is written at level `info`, without colours, and can pick out the lines
in which the target of the access log is named.
-/

namespace ShipTelemetry.Log

/-! ## Messages -/

/-- A character of a message as it is written. -/
def escapeChar (c : Char) : List Char :=
  if c = '\x1b' ∨ c = '\x07' ∨ c = '\x08' ∨ c = '\x0c' ∨ c = '\x7f' then
    '\\' :: 'x' :: Text.hexPair c.toNat
  else if 0x80 ≤ c.toNat ∧ c.toNat ≤ 0x9f then
    '\\' :: 'u' :: '\x7b' :: (Text.hexPair c.toNat ++ ['\x7d'])
  else [c]

/-- A message as it is written. -/
def escape (message : String) : String :=
  String.ofList (message.toList.flatMap escapeChar)

example : escape "a\x1b\u0085" = "a\\x1b\\u\x7b85\x7d" := rfl

/-! ## Layouts -/

/-- How events are written: with colours or without, and how the readings of the clock and
the numbers of ports look. -/
structure Layout where
  coloured : Bool
  colouredSpans : Bool
  time : String
  millis : Nat → String
  port : Nat → String

namespace Layout

/-- The written form of a piece. -/
def piece (l : Layout) : Piece → String
  | .text s => s
  | .millis n => l.millis n
  | .port n => l.port n

/-- The written form of a text. -/
def text (l : Layout) (pieces : List Piece) : String :=
  String.join (pieces.map l.piece)

/-- A text between a style and the end of all styles. -/
def styled (style text : String) : String :=
  "\x1b[" ++ style ++ "m" ++ text ++ "\x1b[0m"

/-- A text that is styled only where colours are wanted. -/
def paint (coloured : Bool) (style text : String) : String :=
  if coloured then styled style text else text

/-- The colour of a level. -/
def levelStyle : Level → String
  | .error => "31"
  | .warn => "33"
  | .info => "32"
  | .debug => "34"
  | .trace => "35"

/-- The written form of a field. -/
def field (l : Layout) (coloured : Bool) (f : Field) : String :=
  paint coloured "3" f.name ++ paint coloured "2" "=" ++ l.text f.value

/-- The written form of a span, up to the blank after it. -/
def span (l : Layout) (s : Span) : String :=
  paint l.coloured "1" s.name ++ paint l.coloured "1" "\x7b" ++
    " ".intercalate (s.fields.map (l.field l.colouredSpans)) ++
    paint l.coloured "1" "\x7d" ++ paint l.coloured "2" ":" ++ " "

/-- The written form of an event, without the line feed after it. -/
def event (l : Layout) (e : Event) : String :=
  paint l.coloured "2" l.time ++ " " ++
    paint l.coloured (levelStyle e.level) e.level.label ++ " " ++
    (match e.span with
      | none => ""
      | some s => l.span s) ++
    paint l.coloured "2" e.target ++ paint l.coloured "2" ":" ++ " " ++
    " ".intercalate (escape (l.text e.message) :: e.fields.map (l.field l.coloured))

/-- The text that events add to a log. -/
def log (l : Layout) (events : List Event) : String :=
  String.join (events.map fun e => l.event e ++ "\n")

@[simp] theorem log_nil (l : Layout) : l.log [] = "" := rfl

@[simp] theorem log_cons (l : Layout) (e : Event) (rest : List Event) :
    l.log (e :: rest) = l.event e ++ "\n" ++ l.log rest := by
  simp [log]

/-- The lines that events add to a log. -/
def lines (l : Layout) (events : List Event) : List String :=
  Text.lines (l.log events)

end Layout

/-! ## Captured logs -/

/-- A log kept in memory: its text so far. -/
structure Capture where
  text : String := ""
deriving DecidableEq, Repr

namespace Capture

/-- Writes events to the log; `layout` says how the readings of the clock look. -/
def write (c : Capture) (layout : Layout) (events : List Event) : Capture :=
  let plain : Layout := { layout with coloured := false, colouredSpans := false }
  { text := c.text ++ plain.log ((Filter.upTo .info).apply events) }

/-- The lines of the log. -/
def lines (c : Capture) : List String := Text.lines c.text

/-- A text is found somewhere in another one. -/
def occursIn (needle : List Char) : List Char → Bool
  | [] => needle.isEmpty
  | c :: rest => needle.isPrefixOf (c :: rest) || occursIn needle rest

/-- The lines that name the target of the access log. -/
def accessLines (c : Capture) (target : String) : List String :=
  c.lines.filter fun line => occursIn target.toList line.toList

end Capture

end ShipTelemetry.Log
