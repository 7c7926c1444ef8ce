import ShipTelemetry.Decimal
import ShipTelemetry.Text.Quoted

/-!
# Log events

An event has a level, a target that says which part of the service speaks, a message, and
named fields.  While a request is being served its events also carry the span of that
request.

Texts in an event are lists of pieces, because two kinds of values are only fixed when an
event is written: how long something took, and the number of a port that the system has
picked.
-/

namespace ShipTelemetry.Log

/-- Levels, from the gravest to the most detailed. -/
inductive Level
  | error
  | warn
  | info
  | debug
  | trace
deriving DecidableEq, Repr

namespace Level

/-- How much detail a level asks for; 0 is left for no events at all. -/
def detail : Level → Nat
  | error => 1
  | warn => 2
  | info => 3
  | debug => 4
  | trace => 5

/-- The name of a level, five characters wide. -/
def label : Level → String
  | error => "ERROR"
  | warn => " WARN"
  | info => " INFO"
  | debug => "DEBUG"
  | trace => "TRACE"

end Level

/-- A piece of text. -/
inductive Piece
  | text (s : String)
  | millis (n : Nat)
  | port (n : Nat)
deriving DecidableEq, Repr

/-- A piece with its number, if it is one, in decimal. -/
def Piece.decimal : Piece → String
  | text s => s
  | millis n => Decimal.text n
  | port n => Decimal.text n

/-- A named value. -/
structure Field where
  name : String
  value : List Piece
deriving DecidableEq, Repr

namespace Field

/-- A field whose value is written as it is. -/
def plain (name value : String) : Field := ⟨name, [.text value]⟩

/-- A field whose value is written in quotes. -/
def quoted (name value : String) : Field := ⟨name, [.text (Text.Quoted.encode value)]⟩

end Field

/-- The stretch of work in which an event happens. -/
structure Span where
  level : Level
  target : String
  name : String
  fields : List Field
deriving DecidableEq, Repr

/-- Something that happened. -/
structure Event where
  level : Level
  target : String
  message : List Piece
  fields : List Field := []
  span : Option Span := none
deriving DecidableEq, Repr

/-- An event inside a span; one that has a span already keeps it. -/
def Event.within (span : Span) (e : Event) : Event :=
  { e with span := e.span.getD span }

end ShipTelemetry.Log
