import ShipTelemetry.Service.Router

/-!
# One poll of a layered handler

What the three layers and the router together make of one poll of a handler, by what that
poll comes to: it is not done, it answers, or it panics.  Everything that is proved about
layered handlers is proved from these equations, and never from the layers themselves.
-/

namespace ShipTelemetry.Service

variable {request : Http.Request} {watch : Stopwatch} {h : Handler} {k : Nat}
  {events : List Log.Event}

/-! ## Inside the layers -/

/-- The event that is logged before the first poll. -/
def openingEvents (k : Nat) : List Log.Event := if k = 0 then [startedEvent] else []

/-- What is logged when a handler answers at poll `k`, after its own events. -/
def concludingEvents (request : Http.Request) (watch : Stopwatch) (k : Nat)
    (status : Http.Status) : List Log.Event :=
  (Access.Tracker.ofRequest request.method request.uri).finish status (watch k) ::
    outcomeEvents status (watch k)

/-- An answer on its way through the span: reading its body is logged there. -/
def spanned (request : Http.Request) (watch : Stopwatch) (k : Nat)
    (response : Http.Response) : Http.Response :=
  { response with closing := [(endOfStreamEvent (watch k)).within (requestSpan request)] }

theorem layered_poll_of_pending (hpoll : h.poll k = (events, .pending)) :
    (layered request watch h).poll k =
      ((openingEvents k ++ events).map (·.within (requestSpan request)), .pending) := by
  simp [layered, traced, accessLogged, recovering, hpoll, openingEvents]

theorem layered_poll_of_answered {response : Http.Response}
    (hpoll : h.poll k = (events, .answered response)) :
    (layered request watch h).poll k =
      ((openingEvents k ++ events ++ concludingEvents request watch k response.status).map
          (·.within (requestSpan request)),
        .answered (spanned request watch k response)) := by
  simp [layered, traced, accessLogged, recovering, hpoll, openingEvents, concludingEvents,
    spanned]

theorem layered_poll_of_panicked {payload : Payload}
    (hpoll : h.poll k = (events, .panicked payload)) :
    (layered request watch h).poll k =
      ((openingEvents k ++ (events ++ [payload.event]) ++
            concludingEvents request watch k panicReply.status).map
          (·.within (requestSpan request)),
        .answered (spanned request watch k panicReply)) := by
  simp [layered, traced, accessLogged, recovering, hpoll, openingEvents, concludingEvents,
    spanned]

theorem layered_cancel (request : Http.Request) (watch : Stopwatch) (h : Handler) (k : Nat) :
    (layered request watch h).cancel k =
      h.cancel k ++ if k = 0 then [] else
        [(Access.Tracker.ofRequest request.method request.uri).abandon (watch k)] := rfl

/-! ## Behind the router -/

/-- What the router does to an answer at last. -/
def Dispatch.conclude (found : Dispatch) (response : Http.Response) : Http.Response :=
  if found.bodiless then withoutBody (withLength response) else withLength response

@[simp] theorem Dispatch.conclude_status (found : Dispatch) (response : Http.Response) :
    (found.conclude response).status = response.status := by
  unfold conclude
  split <;> rfl

theorem Handler.mapResponse_mapResponse (first second : Http.Response → Http.Response)
    (h : Handler) :
    (h.mapResponse first).mapResponse second = h.mapResponse fun r => second (first r) := by
  unfold mapResponse
  congr 1
  funext k
  rcases hpoll : h.poll k with ⟨events, progress⟩
  cases progress <;> simp [hpoll]

namespace Router

variable {r : Router}

theorem handle_eq (r : Router) (watch : Stopwatch) (request : Http.Request) :
    r.handle watch request =
      (layered request watch (r.dispatch request).handler).mapResponse
        (r.dispatch request).conclude := by
  rcases hfound : r.dispatch request with ⟨handler, bodiless⟩
  cases bodiless <;> simp only [handle, hfound]
  · rfl
  · exact Handler.mapResponse_mapResponse withLength withoutBody _

theorem handle_poll_of_pending (hpoll : (r.dispatch request).handler.poll k = (events, .pending)) :
    (r.handle watch request).poll k =
      ((openingEvents k ++ events).map (·.within (requestSpan request)), .pending) := by
  simp [handle_eq, Handler.mapResponse, layered_poll_of_pending hpoll]

theorem handle_poll_of_answered {response : Http.Response}
    (hpoll : (r.dispatch request).handler.poll k = (events, .answered response)) :
    (r.handle watch request).poll k =
      ((openingEvents k ++ events ++ concludingEvents request watch k response.status).map
          (·.within (requestSpan request)),
        .answered ((r.dispatch request).conclude (spanned request watch k response))) := by
  simp [handle_eq, Handler.mapResponse, layered_poll_of_answered hpoll]

theorem handle_poll_of_panicked {payload : Payload}
    (hpoll : (r.dispatch request).handler.poll k = (events, .panicked payload)) :
    (r.handle watch request).poll k =
      ((openingEvents k ++ (events ++ [payload.event]) ++
            concludingEvents request watch k panicReply.status).map
          (·.within (requestSpan request)),
        .answered ((r.dispatch request).conclude (spanned request watch k panicReply))) := by
  simp [handle_eq, Handler.mapResponse, layered_poll_of_panicked hpoll]

theorem handle_cancel (r : Router) (watch : Stopwatch) (request : Http.Request) (k : Nat) :
    (r.handle watch request).cancel k =
      (r.dispatch request).handler.cancel k ++ if k = 0 then [] else
        [(Access.Tracker.ofRequest request.method request.uri).abandon (watch k)] := by
  rw [handle_eq]
  exact layered_cancel request watch _ k

end Router

end ShipTelemetry.Service
