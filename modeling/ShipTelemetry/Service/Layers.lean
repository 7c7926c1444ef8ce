import ShipTelemetry.Access
import ShipTelemetry.Envelope
import ShipTelemetry.Service.Exchange

/-!
# Layers around a handler

Three layers stand around every handler.  The outermost opens the span of the request and
logs its beginning and its end.  The middle one writes the access log.  The innermost turns
a panic into an answer, so that the two others see an answer in any case.

A layer takes a handler and gives one.  When a waiting handler is dropped only the access
log notices, and that outside the span, which is entered only while polling.
-/

namespace ShipTelemetry.Service

/-- The milliseconds that have passed since the first poll, for each number of polls. -/
abbrev Stopwatch := Nat → Nat

/-! ## Answers -/

/-- An answer that carries an envelope. -/
def reply (status : Http.Status) (envelope : Envelope) : Http.Response :=
  { status, headers := [("content-type", "application/json")], body := envelope.body }

/-- The target of the events that handlers log. -/
def handlerTarget : String := "telemetry_service::handlers"

/-! ## Panic recovery -/

namespace Payload

/-- What is logged of a panic. -/
def detail : Payload → String
  | .text message => message
  | .other => "non-string panic payload"

/-- The event that reports a panic. -/
def event (p : Payload) : Log.Event :=
  { level := .error, target := handlerTarget, message := [.text "handler panicked"],
    fields := [.quoted "panic" p.detail] }

end Payload

/-- The answer to a request whose handler panicked.  It says nothing about the panic. -/
def panicReply : Http.Response :=
  reply .internalServerError (.error "Internal Server Error")

/-- Answers in place of a handler that panics. -/
def recovering (h : Handler) : Handler where
  poll k :=
    match h.poll k with
    | (events, .panicked payload) => (events ++ [payload.event], .answered panicReply)
    | other => other
  cancel := h.cancel

/-! ## Access log -/

/-- Writes the access entry of a request: when the handler answers, when it is dropped after
a poll, or when it panics.  A handler that was never polled has not begun. -/
def accessLogged (request : Http.Request) (watch : Stopwatch) (h : Handler) : Handler :=
  let tracker := Access.Tracker.ofRequest request.method request.uri
  { poll := fun k =>
      match h.poll k with
      | (events, .answered response) =>
          (events ++ tracker.complete response.status (watch k), .answered response)
      | (events, .panicked payload) => (events ++ tracker.drop (watch k), .panicked payload)
      | (events, .pending) => (events, .pending)
    cancel := fun k => h.cancel k ++ if k = 0 then [] else tracker.drop (watch k) }

/-! ## Request span -/

/-- The span of a request. -/
def requestSpan (request : Http.Request) : Log.Span :=
  { level := .info, target := "tower_http::trace::make_span", name := "request",
    fields := [.plain "method" request.method.name, .plain "uri" request.uri.display,
      .plain "version" request.version.display] }

/-- The event at the beginning of a request. -/
def startedEvent : Log.Event :=
  { level := .debug, target := "tower_http::trace::on_request",
    message := [.text "started processing request"] }

/-- The event when an answer is there. -/
def finishedEvent (status : Http.Status) (millis : Nat) : Log.Event :=
  { level := .debug, target := "tower_http::trace::on_response",
    message := [.text "finished processing request"],
    fields := [⟨"latency", [.millis millis, .text " ms"]⟩,
      .plain "status" (Decimal.text status.code)] }

/-- The event after an answer that says that the service failed. -/
def failedEvent (status : Http.Status) (millis : Nat) : Log.Event :=
  { level := .error, target := "tower_http::trace::on_failure",
    message := [.text "response failed"],
    fields := [.plain "classification" ("Status code: " ++ status.display),
      ⟨"latency", [.millis millis, .text " ms"]⟩] }

/-- The event when the body of an answer has been read to its end. -/
def endOfStreamEvent (millis : Nat) : Log.Event :=
  { level := .debug, target := "tower_http::trace::on_eos", message := [.text "end of stream"],
    fields := [⟨"stream_duration", [.millis millis, .text " ms"]⟩] }

/-- The events that an answer with this status causes. -/
def outcomeEvents (status : Http.Status) (millis : Nat) : List Log.Event :=
  finishedEvent status millis :: if status.isServerError then [failedEvent status millis] else []

/-- Logs the beginning and the end of a request, and puts all that is logged while polling
into its span. -/
def traced (request : Http.Request) (watch : Stopwatch) (h : Handler) : Handler :=
  let span := requestSpan request
  { poll := fun k =>
      let opening := if k = 0 then [startedEvent] else []
      match h.poll k with
      | (events, .answered response) =>
          ((opening ++ events ++ outcomeEvents response.status (watch k)).map (·.within span),
            .answered { response with closing := [(endOfStreamEvent (watch k)).within span] })
      | (events, progress) => ((opening ++ events).map (·.within span), progress)
    cancel := h.cancel }

/-- A handler with its three layers. -/
def layered (request : Http.Request) (watch : Stopwatch) (h : Handler) : Handler :=
  traced request watch (accessLogged request watch (recovering h))

end ShipTelemetry.Service
