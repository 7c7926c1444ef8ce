import ShipTelemetry.Http

/-!
# Exchanges

A handler works towards the answer to one request.  It is polled, and each poll comes to one
of three ends: it is not done yet, it answers, or it panics.  It may also be dropped between
two polls.  What it does is given as a function of the number of polls before, so a handler
may answer after any number of polls, panic at any of them, or never be done.

An exchange is a handler together with how far it has come.  It is polled until it has an
answer, and may be dropped before.  A dropped or finished exchange does nothing more.

Many exchanges are at work at the same time and write to one log.  A schedule says in which
order they are polled and dropped.  The log keeps with each event the number of the exchange
that it came from.
-/

namespace ShipTelemetry.Service

/-! ## Handlers -/

/-- What a panic carries. -/
inductive Payload
  | text (message : String)
  | other
deriving DecidableEq, Repr

/-- What a poll comes to. -/
inductive Progress
  | pending
  | answered (response : Http.Response)
  | panicked (payload : Payload)
deriving DecidableEq, Repr

/-- What a handler logs and comes to at each poll, given the number of polls before, and
what it logs when it is dropped after that many. -/
structure Handler where
  poll : Nat → List Log.Event × Progress
  cancel : Nat → List Log.Event := fun _ => []

namespace Handler

/-- Answers at the first poll. -/
def ready (events : List Log.Event) (response : Http.Response) : Handler :=
  { poll := fun _ => (events, .answered response) }

/-- Panics at the first poll. -/
def panicking (payload : Payload) : Handler := { poll := fun _ => ([], .panicked payload) }

/-- Is never done. -/
def stalled : Handler := { poll := fun _ => ([], .pending) }

/-- Changes the answer. -/
def mapResponse (change : Http.Response → Http.Response) (h : Handler) : Handler where
  poll k :=
    match h.poll k with
    | (events, .answered response) => (events, .answered (change response))
    | other => other
  cancel := h.cancel

end Handler

/-! ## Exchanges -/

/-- How far an exchange has come. -/
inductive Stage
  | waiting (polls : Nat)
  | answered (response : Http.Response)
  | panicked (payload : Payload)
  | dropped
deriving DecidableEq, Repr

/-- A handler at work. -/
structure Exchange where
  handler : Handler
  stage : Stage

namespace Exchange

/-- Begins an exchange. -/
def begin (handler : Handler) : Exchange := { handler, stage := .waiting 0 }

/-- Polls the handler, if it is still waited for. -/
def poll (x : Exchange) : Exchange × List Log.Event :=
  match x.stage with
  | .waiting k =>
      match x.handler.poll k with
      | (events, .pending) => ({ x with stage := .waiting (k + 1) }, events)
      | (events, .answered response) => ({ x with stage := .answered response }, events)
      | (events, .panicked payload) => ({ x with stage := .panicked payload }, events)
  | _ => (x, [])

/-- Drops the exchange.  An answer given already stands. -/
def drop (x : Exchange) : Exchange × List Log.Event :=
  match x.stage with
  | .waiting k => ({ x with stage := .dropped }, x.handler.cancel k)
  | _ => (x, [])

/-! ### Whole exchanges -/

/-- The answer, once there is one. -/
def response? (x : Exchange) : Option Http.Response :=
  match x.stage with
  | .answered response => some response
  | _ => none

/-- Polls up to `n` times. -/
def pollUpTo : Nat → Exchange → Exchange × List Log.Event
  | 0, x => (x, [])
  | n + 1, x =>
      let (next, events) := x.poll
      let (last, more) := pollUpTo n next
      (last, events ++ more)

/-- Polls up to `n` times and then lets go: of the body, read to its end, when there is an
answer, and of the handler otherwise. -/
def run (n : Nat) (handler : Handler) : Option Http.Response × List Log.Event :=
  let (x, events) := pollUpTo n (begin handler)
  match x.response? with
  | some response => (some response, events ++ response.closing)
  | none => (none, events ++ x.drop.2)

end Exchange

/-! ## Schedules -/

/-- What is done to an exchange. -/
inductive Action
  | poll
  | drop
deriving DecidableEq, Repr

namespace Exchange

/-- Does one thing to an exchange. -/
def act (x : Exchange) : Action → Exchange × List Log.Event
  | .poll => x.poll
  | .drop => x.drop

/-- Does one thing after the other to an exchange. -/
def actAll : Exchange → List Action → Exchange × List Log.Event
  | x, [] => (x, [])
  | x, action :: rest =>
      let (next, events) := x.act action
      let (last, more) := actAll next rest
      (last, events ++ more)

end Exchange

/-- Exchanges by number. -/
abbrev Exchanges := Nat → Exchange

/-- The exchanges with another one at a number. -/
def Exchanges.update (xs : Exchanges) (i : Nat) (x : Exchange) : Exchanges :=
  fun j => if j = i then x else xs j

/-- A schedule: which exchange is next, and what is done to it. -/
abbrev Schedule := List (Nat × Action)

namespace Schedule

/-- What a schedule does to one exchange. -/
def actionsOf (i : Nat) (s : Schedule) : List Action :=
  (s.filter fun move => move.1 = i).map Prod.snd

/-- Follows a schedule: the exchanges at the end, and the log. -/
def follow : Exchanges → Schedule → Exchanges × List (Nat × Log.Event)
  | xs, [] => (xs, [])
  | xs, (i, action) :: rest =>
      let (next, events) := (xs i).act action
      let (last, more) := follow (xs.update i next) rest
      (last, events.map (fun e => (i, e)) ++ more)

end Schedule

end ShipTelemetry.Service
