import ShipTelemetry.Proofs.Log.Basic

/-!
# Logs, durations aside

Two runs that differ only in how long things took write the same log, except for the durations
in it.  `Event.untimed` sets these to zero, and a layout that writes one and the same word for
every duration cannot tell an event from the untimed one (`lines_apply_untimed`).
-/

namespace ShipTelemetry.Log

variable {l : Layout} {f : Filter}

/-! ## Without durations -/

/-- A piece with its duration, if it is one, set to zero. -/
def Piece.untimed : Piece → Piece
  | .millis _ => .millis 0
  | .text s => .text s
  | .port n => .port n

/-- A field with all durations set to zero. -/
def Field.untimed (field : Field) : Field :=
  { field with value := field.value.map Piece.untimed }

/-- An event with all durations set to zero.  Spans are opened before anything could take
time, and tell none. -/
def Event.untimed (e : Event) : Event :=
  { e with message := e.message.map Piece.untimed, fields := e.fields.map Field.untimed }

theorem Event.untimed_within (span : Span) (e : Event) :
    (e.within span).untimed = e.untimed.within span := rfl

theorem map_untimed_map_within (span : Span) (events : List Event) :
    (events.map (·.within span)).map Event.untimed =
      (events.map Event.untimed).map (·.within span) := by
  rw [List.map_map, List.map_map]
  exact List.map_congr_left fun e _ => Event.untimed_within span e

/-! ## Layouts that hide durations -/

/-- A layout that writes the same word for every duration. -/
def Layout.hiding (l : Layout) (word : String) : Layout := { l with millis := fun _ => word }

theorem Layout.text_untimed (l : Layout) (word : String) (pieces : List Piece) :
    (l.hiding word).text (pieces.map Piece.untimed) = (l.hiding word).text pieces := by
  unfold text
  rw [List.map_map]
  congr 1
  refine List.map_congr_left fun piece _ => ?_
  cases piece with
  | text s => rfl
  | millis n => rfl
  | port n => rfl

theorem Layout.event_untimed (l : Layout) (word : String) (e : Event) :
    (l.hiding word).event e.untimed = (l.hiding word).event e := by
  have hfield : ∀ (coloured : Bool) (field : Field),
      (l.hiding word).field coloured field.untimed = (l.hiding word).field coloured field := by
    intro coloured field
    simp only [Layout.field, Field.untimed, text_untimed]
  have hfields : (e.fields.map Field.untimed).map ((l.hiding word).field (l.hiding word).coloured) =
      e.fields.map ((l.hiding word).field (l.hiding word).coloured) := by
    rw [List.map_map]
    exact List.map_congr_left fun field _ => hfield _ field
  simp only [event, Event.untimed, text_untimed, hfields]

/-- A filter looks at names and spans, never at a duration. -/
theorem Filter.admits_untimed (f : Filter) (e : Event) : f.admits e.untimed = f.admits e := by
  have hnames : (fun name => decide (name = "message") ||
      (e.fields.map Field.untimed).any fun field => decide (field.name = name)) =
        fun name => decide (name = "message") ||
          e.fields.any fun field => decide (field.name = name) := by
    funext name
    rw [List.any_map]
    rfl
  simp only [admits, Event.untimed, hnames]

theorem Filter.apply_untimed (f : Filter) (events : List Event) :
    f.apply (events.map Event.untimed) = (f.apply events).map Event.untimed := by
  have hadmits : f.admits ∘ Event.untimed = f.admits := funext f.admits_untimed
  unfold apply
  rw [List.filter_map, hadmits, List.map_map, List.map_map]
  exact List.map_congr_left fun e _ => rfl

/-- What is written of events, where durations are hidden, is written of the untimed ones. -/
theorem lines_apply_untimed (f : Filter) (l : Layout) (word : String) (events : List Event) :
    (l.hiding word).lines (f.apply (events.map Event.untimed)) =
      (l.hiding word).lines (f.apply events) := by
  have hlog : ∀ written : List Event,
      (l.hiding word).log (written.map Event.untimed) = (l.hiding word).log written := by
    intro written
    induction written with
    | nil => rfl
    | cons e rest ih => rw [List.map_cons, Layout.log_cons, Layout.log_cons, ih, l.event_untimed]
  rw [f.apply_untimed]
  unfold Layout.lines
  rw [hlog]

end ShipTelemetry.Log
