import ShipTelemetry.Log.Directive

/-!
# Log filters

A filter is a list of directives with commas between them.  A directive speaks about every
target that begins with its own, and without a target about all of them.

Directives that name no span and ask for no value decide about events by their target and
their fields.  Of those that speak about an event the one with the longest target decides,
then one that names a field before one that does not, then the later in the alphabet, and
of two alike the later one.  An event about which no directive speaks is not written.

A directive that names a span or a field also lets events through that happen in a span:
those up to its level, if the span has that name and that field with a fitting value.  A
span is shown if such a directive speaks about it, whatever the value of its field, or if
the other directives let it through.

One directive that cannot be read makes the whole filter fall back to level `info`.  A
filter without any directive lets errors through.
-/

namespace ShipTelemetry.Log

/-! ## What a directive speaks about -/

namespace Directive

/-- The directive speaks about a target. -/
def covers (d : Directive) (target : String) : Bool :=
  match d.target with
  | none => true
  | some own => own.toList.isPrefixOf target.toList

/-- The directive takes part in decisions about events wherever they happen. -/
def isGeneral (d : Directive) : Bool :=
  d.span.isNone && d.field.all fun test => test.value.isNone

/-- Where the directive names a field, the field is there. -/
def findsField (d : Directive) (has : String → Bool) : Bool :=
  d.field.all fun test => has test.name

/-- The greater, the more closely the directive names its target. -/
def rank (d : Directive) : Nat :=
  match d.target with
  | none => 0
  | some own => own.length + 1

/-- The field that a directive names, with nothing before all others. -/
def fieldName (d : Directive) : List String := d.field.toList.map FieldTest.name

/-- The second directive is preferred to the first, or like it. -/
def yieldsTo (d e : Directive) : Bool :=
  d.rank < e.rank || (d.rank = e.rank && !decide (e.fieldName < d.fieldName))

/-- The directive is about spans, and about this one. -/
def marks (d : Directive) (s : Span) : Bool :=
  (d.span.isSome || d.field.isSome) && d.covers s.target && d.span.all (· = s.name) &&
    d.findsField fun name => s.fields.any (·.name = name)

/-- The values of a span fit where the directive asks for one. -/
def fitsValues (d : Directive) (s : Span) : Bool :=
  d.field.all fun test =>
    match test.value with
    | none => true
    | some .literal => false
    | some (.pattern p) => s.fields.any fun f =>
        f.name = test.name && p.fits (String.join (f.value.map Piece.decimal)).toList

end Directive

/-! ## Filters -/

/-- The directives of a filter, in the order written. -/
structure Filter where
  directives : List Directive
deriving DecidableEq, Repr

namespace Filter

/-- The filter that lets everything up to a level through. -/
def upTo (level : Level) : Filter := ⟨[{ detail := level.detail }]⟩

/-- Of a directive found so far and the next one, the one that decides. -/
def prefer (found : Option Directive) (next : Directive) : Option Directive :=
  match found with
  | none => some next
  | some best => if best.yieldsTo next then some next else some best

/-- The directive that decides about a target, given which fields are there. -/
def deciding? (f : Filter) (target : String) (has : String → Bool) : Option Directive :=
  (f.directives.filter fun d => d.isGeneral && d.covers target && d.findsField has).foldl
    prefer none

/-- Something of this level, target and fields is let through wherever it happens. -/
def lets (f : Filter) (level : Level) (target : String) (has : String → Bool) : Bool :=
  match f.deciding? target has with
  | none => false
  | some d => level.detail ≤ d.detail

/-- Events up to this level are let through because they happen in a span. -/
def letsWithin (f : Filter) (s : Span) (level : Level) : Bool :=
  f.directives.any fun d => d.marks s && d.fitsValues s && level.detail ≤ d.detail

/-- A span is shown.  Fields do not count for a directive that is not about it. -/
def shows (f : Filter) (s : Span) : Bool :=
  f.directives.any (·.marks s) || f.lets s.level s.target fun _ => true

/-- An event is written.  Its message counts as a field. -/
def admits (f : Filter) (e : Event) : Bool :=
  f.lets e.level e.target (fun name => name = "message" || e.fields.any (·.name = name)) ||
    e.span.any fun s => f.letsWithin s e.level

/-- What is left of events: those that are let through, without spans that are not shown. -/
def apply (f : Filter) (events : List Event) : List Event :=
  (events.filter f.admits).map fun e => { e with span := e.span.filter f.shows }

/-! ## Reading -/

/-- Reads directives one after the other, up to the first fault. -/
def readAll : List (List Char) → Except DirectiveFault (List Directive)
  | [] => .ok []
  | piece :: rest =>
      match Directive.read piece with
      | .error e => .error e
      | .ok d =>
          match readAll rest with
          | .error e => .error e
          | .ok more => .ok (d :: more)

/-- Reads a filter. -/
def read (text : String) : Except DirectiveFault Filter :=
  match (text.toList.splitOn ',').filter (· ≠ []) with
  | [] => .ok (upTo .error)
  | pieces =>
      match readAll pieces with
      | .error e => .error e
      | .ok directives => .ok ⟨directives⟩

/-- The filter asked for by a setting: level `info` where there is none, or one that is not
of the form.  Nothing stands in for one whose reading breaks off. -/
def ofSetting? : Option String → Option Filter
  | none => some (upTo .info)
  | some text =>
      match read text with
      | .ok f => some f
      | .error .malformed => some (upTo .info)
      | .error .insideCharacter => none

end Filter

end ShipTelemetry.Log
