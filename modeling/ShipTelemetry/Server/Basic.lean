import ShipTelemetry.Service.Router

/-!
# Servers

A host has ports.  A port is held by at most one listener: one of the service, or one of
somebody else.  Starting the service on a port takes it, stopping it gives it back.  On port
zero the system picks a free port.

A running service is a loop that accepts connections.  The loop owns the listener and the
receiving end of a channel; the handle of the service owns the sending end.  The loop goes on
until its wait on the channel is over.  Stopping a service sends it the word to end, waits for
the loop, and says so in the log.  When a handle is let go without being stopped, its end of
the channel goes with it, and that ends the wait as well: the service stops accepting and
releases its port.  But nobody is left to say so, except in the finest detail of the log,
where the loop speaks for itself.

The loop hands each request that comes in at its port to the routes and sends their answer back.
How requests and answers are written on a connection does not matter here: a request is asked as
it has been read, and its answer is what the routes have given.
-/

namespace ShipTelemetry.Server

/-! ## Ports -/

/-- A service cannot listen because its port is taken. -/
structure BindError where
  port : Nat
deriving DecidableEq, Repr

/-- All interfaces, at a port. -/
def address (port : Nat) : List Log.Piece := [.text "0.0.0.0:", .port port]

/-- The wording of an error. -/
def BindError.message (e : BindError) : List Log.Piece :=
  [.text "failed to bind listener on "] ++ address e.port ++
    [.text ": Address already in use (os error 98)"]

/-! ## Channels -/

/-- What has become of the sending end of a channel that carries one word. -/
inductive Channel
  | waiting
  | sent
  | abandoned
deriving DecidableEq, Repr

/-- The sending end is gone and has sent nothing. -/
inductive SenderGone
  | senderGone
deriving DecidableEq, Repr

namespace Channel

/-- What a wait at the receiving end comes to; nothing as long as the word may still come. -/
def received? : Channel → Option (Except SenderGone Unit)
  | waiting => none
  | sent => some (.ok ())
  | abandoned => some (.error .senderGone)

/-- The loop at the receiving end is to end.  It waits for the channel and does not look at
what the wait has come to. -/
def isOver (c : Channel) : Bool := c.received?.isSome

end Channel

/-! ## Services -/

/-- What a running service is known by: its place in the order of all starts, and the port
that it listens on. -/
structure Handle where
  number : Nat
  port : Nat
deriving DecidableEq, Repr

/-- The loop of a service: which handle belongs to it, and the channel from there. -/
structure Loop where
  handle : Handle
  channel : Channel := .waiting
deriving DecidableEq, Repr

/-- The port that the listener of a loop holds. -/
def Loop.port (l : Loop) : Nat := l.handle.port

/-- The ports held by others, the loops at work, the handles in somebody's hands, and how
many services have been started so far. -/
structure Host where
  foreign : List Nat := []
  loops : List Loop := []
  handles : List Handle := []
  started : Nat := 0
deriving DecidableEq, Repr

namespace Host

/-- All ports that are held. -/
def held (h : Host) : List Nat := h.foreign ++ h.loops.map Loop.port

/-- The port that a listener gets: the one asked for, or for zero the one the system picks.
-/
def choose (requested picked : Nat) : Nat := if requested = 0 then picked else requested

end Host

/-! ## Events -/

/-- The target of the events of a server. -/
def target : String := "telemetry_service::server"

/-- The event of a service that listens. -/
def listening (port : Nat) : Log.Event :=
  { level := .info, target, message := [.text "telemetry service listening"],
    fields := [⟨"local_addr", address port⟩] }

/-- The event of a service that has stopped. -/
def stopped (port : Nat) : Log.Event :=
  { level := .info, target, message := [.text "telemetry service stopped"],
    fields := [⟨"local_addr", address port⟩] }

/-- The target of the events of a loop. -/
def loopTarget : String := "axum::serve"

/-- An event of the loop that accepts connections. -/
def loopEvent (message : String) : Log.Event :=
  { level := .trace, target := loopTarget, message := [.text message] }

/-- The events of the loop when it ends.  Requests are served one after the other, so no
connection is open by then. -/
def closing : List Log.Event :=
  [loopEvent "received graceful shutdown signal. Telling tasks to shutdown",
   loopEvent "signal received, not accepting new connections",
   loopEvent "waiting for 0 task(s) to finish"]

/-! ## Operations -/

namespace Host

/-- A host on which one more service has been started. -/
def opened (h : Host) (port : Nat) : Host :=
  let handle : Handle := { number := h.started, port }
  { h with loops := h.loops ++ [{ handle }], handles := h.handles ++ [handle],
           started := h.started + 1 }

/-- Starts the service on a port.  `picked` is the port that the system picks if none is
asked for. -/
def start (h : Host) (requested picked : Nat) :
    Except BindError Handle × Host × List Log.Event :=
  let port := choose requested picked
  if port ∈ h.held then (.error ⟨requested⟩, h, [])
  else (.ok { number := h.started, port }, h.opened port, [listening port])

/-- Gives a handle out of hand; its end of the channel is left like this. -/
def release (h : Host) (handle : Handle) (channel : Channel) : Host :=
  { h with
      handles := h.handles.filter (· ≠ handle)
      loops := h.loops.map fun l => if l.handle = handle then { l with channel } else l }

/-- Lets the loops go on until each of them has to wait.  Those that are over end, and with
them their listeners. -/
def settle (h : Host) : Host × List Log.Event :=
  ({ h with loops := h.loops.filter fun l => !l.channel.isOver },
    (h.loops.filter fun l => l.channel.isOver).flatMap fun _ => closing)

/-- Stops the service of a handle: sends the word to end and waits for the loop. -/
def stop (h : Host) (handle : Handle) : Host × List Log.Event :=
  let (next, events) := (h.release handle .sent).settle
  (next, events ++ [stopped handle.port])

/-- Lets go of a handle without stopping its service.  Nothing is sent any more. -/
def letGo (h : Host) (handle : Handle) : Host × List Log.Event :=
  (h.release handle .abandoned).settle

end Host

/-! ## Requests -/

/-- Why the service does not answer at a port: there is no way to the host, nobody listens, or
somebody else does. -/
inductive ConnectError
  | unreachable
  | refused
  | foreign
deriving DecidableEq, Repr

/-- What a client gets for a request at a port, once there is an answer, and what is logged.  The
body of an answer is sent without being read to its end, so its end is not logged.  Nothing gets
through where there is no network. -/
def Host.request (h : Host) (network : Bool) (watch : Service.Stopwatch) (port : Nat)
    (request : Http.Request) :
    Except ConnectError (Option Http.Response) × List Log.Event :=
  if !network then (.error .unreachable, [])
  else if port ∈ h.loops.map Loop.port then
    let (exchange, events) :=
      (Service.Exchange.begin (Service.router.handle watch request)).poll
    (.ok exchange.response?, events)
  else if port ∈ h.foreign then (.error .foreign, [])
  else (.error .refused, [])

/-! ## Runs -/

/-- What can be done on a host. -/
inductive Operation
  | start (requested picked : Nat)
  | stop (handle : Handle)
  | letGo (handle : Handle)
  | request (port : Nat) (request : Http.Request)
deriving DecidableEq, Repr

/-- What an operation comes to. -/
inductive Result
  | started (handle : Handle)
  | bindFailed (error : BindError)
  | stopped
  | letGo
  | notRunning
  | replied (reply : Except ConnectError (Option Http.Response))

namespace Host

/-- Does one thing.  Only a handle that somebody has can be used. -/
def perform (network : Bool) (watch : Service.Stopwatch) (h : Host) :
    Operation → Result × Host × List Log.Event
  | .start requested picked =>
      match h.start requested picked with
      | (.ok handle, next, events) => (.started handle, next, events)
      | (.error e, next, events) => (.bindFailed e, next, events)
  | .stop handle =>
      if handle ∈ h.handles then
        let (next, events) := h.stop handle
        (.stopped, next, events)
      else (.notRunning, h, [])
  | .letGo handle =>
      if handle ∈ h.handles then
        let (next, events) := h.letGo handle
        (.letGo, next, events)
      else (.notRunning, h, [])
  | .request port request =>
      let (reply, events) := h.request network watch port request
      (.replied reply, h, events)

/-- Does one thing after the other: what each of them comes to, with what is logged at it;
and the host at the end. -/
def performAll (network : Bool) (watch : Service.Stopwatch) :
    Host → List Operation → List (Result × List Log.Event) × Host
  | h, [] => ([], h)
  | h, operation :: rest =>
      let (result, next, events) := h.perform network watch operation
      let (more, last) := performAll network watch next rest
      ((result, events) :: more, last)

end Host

end ShipTelemetry.Server
