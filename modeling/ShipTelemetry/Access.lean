import ShipTelemetry.Http

/-!
# The access log

Every request that is begun leaves exactly one entry in the access log: when it is answered,
with the status of the answer, or when it is given up before, with a status of its own.  A
tracker stands for a request until it is dropped.  It is dropped when the request is answered,
too, and so it remembers whether the entry has been written already.
-/

namespace ShipTelemetry.Access

/-- The target of access events. -/
def target : String := "telemetry_service::access"

/-- One line of the access log. -/
structure Entry where
  method : Http.Method
  path : String
  status : Nat
  millis : Nat
deriving DecidableEq, Repr

namespace Entry

/-- The text of an entry, in pieces. -/
def message (e : Entry) : List Log.Piece :=
  [.text (e.method.name ++ " " ++ e.path ++ " → " ++ Decimal.text e.status ++ " ("),
    .millis e.millis, .text "ms)"]

/-- The text of an entry. -/
def text (e : Entry) : String := String.join (e.message.map Log.Piece.decimal)

/-- The event that writes an entry. -/
def event (e : Entry) : Log.Event := { level := .info, target, message := e.message }

end Entry

/-- The status of a request that was given up before it was answered. -/
def closedByClient : Nat := 499

/-- A request that is being served, and whether it has its entry. -/
structure Tracker where
  method : Http.Method
  path : String
  logged : Bool := false
deriving DecidableEq, Repr

namespace Tracker

/-- Begins to track a request. -/
def ofRequest (method : Http.Method) (uri : Uri) : Tracker := { method, path := uri.received }

/-- The entry that a request would get now. -/
def entry (t : Tracker) (status millis : Nat) : Entry :=
  { method := t.method, path := t.path, status, millis }

/-- Writes the entry of an answered request. -/
def finish (t : Tracker) (status : Http.Status) (millis : Nat) : Log.Event :=
  (t.entry status.code millis).event

/-- Writes the entry of a request that was given up. -/
def abandon (t : Tracker) (millis : Nat) : Log.Event :=
  (t.entry closedByClient millis).event

/-- Drops a tracker: a request without an entry was given up. -/
def drop (t : Tracker) (millis : Nat) : List Log.Event :=
  if t.logged then [] else [t.abandon millis]

/-- Ends a request that is answered: its entry is written, and the tracker is dropped. -/
def complete (t : Tracker) (status : Http.Status) (millis : Nat) : List Log.Event :=
  let done := { t with logged := true }
  done.finish status millis :: done.drop millis

theorem drop_of_not_logged {t : Tracker} (h : t.logged = false) (millis : Nat) :
    t.drop millis = [t.abandon millis] := by
  simp [drop, h]

@[simp] theorem drop_ofRequest (method : Http.Method) (uri : Uri) (millis : Nat) :
    (ofRequest method uri).drop millis = [(ofRequest method uri).abandon millis] :=
  drop_of_not_logged rfl millis

/-- A request that is answered has one entry, although its tracker is dropped as well. -/
@[simp] theorem complete_eq (t : Tracker) (status : Http.Status) (millis : Nat) :
    t.complete status millis = [t.finish status millis] := rfl

end Tracker

/-! ## Trackers in use -/

/-- What can be done with a tracker. -/
inductive Step
  | entry (status : Nat)
  | finish (code : Nat)
  | abandon
deriving DecidableEq, Repr

/-- What a step comes to. -/
inductive Outcome
  | entry (e : Entry)
  | finished
  | invalidStatus
  | abandoned
  | gone
deriving DecidableEq, Repr

/-- Takes a step: what it comes to, what is left of the tracker, and what is logged.  A code
that is no status leaves the tracker as it was. -/
def step (millis : Nat) : Option Tracker → Step → Outcome × Option Tracker × List Log.Event
  | none, _ => (.gone, none, [])
  | some t, .entry status => (.entry (t.entry status millis), some t, [])
  | some t, .finish code =>
      match Http.Status.ofCode? code with
      | none => (.invalidStatus, some t, [])
      | some status => (.finished, none, t.complete status millis)
  | some t, .abandon => (.abandoned, none, t.drop millis)

/-- Takes steps one after the other, each with the time that has passed until then: what each
of them comes to, with what is logged at it; and what is left of the tracker. -/
def steps : Option Tracker → List (Nat × Step) →
    List (Outcome × List Log.Event) × Option Tracker
  | t, [] => ([], t)
  | t, (millis, s) :: rest =>
      let (outcome, next, events) := step millis t s
      let (more, last) := steps next rest
      ((outcome, events) :: more, last)

theorem steps_cons (t : Option Tracker) (move : Nat × Step) (rest : List (Nat × Step)) :
    steps t (move :: rest) =
      (((step move.1 t move.2).1, (step move.1 t move.2).2.2) ::
          (steps (step move.1 t move.2).2.1 rest).1,
        (steps (step move.1 t move.2).2.1 rest).2) := rfl

/-- Lets go of what is left of a tracker. -/
def close (millis : Nat) : Option Tracker → List Log.Event
  | none => []
  | some t => t.drop millis

end ShipTelemetry.Access
