import ShipTelemetry.Proofs.Service.Layers
import ShipTelemetry.Proofs.Service.Polling

/-!
# Completed requests

The service answers every request at the first poll.  `outcome` says what a request comes to
at the routes, and `run_router` what the layers and the router make of it: the answer and
the whole log of the request, for every method, every target and any number of polls.
-/

namespace ShipTelemetry.Service

variable {request : Http.Request}

/-! ## At the routes -/

/-- What a report comes to, given its parameters: the events and the answer. -/
def shipOutcome (parameters : List (String × String)) : List Log.Event × Http.Response :=
  match Report.ofParameters parameters with
  | .ok report => ([detectedEvent report], reply .ok (.ack report.name))
  | .error rejection => ([rejectedEvent rejection], reply .badRequest (.error rejection.message))

/-- The request is for a report. -/
def asksForShip (request : Http.Request) : Prop :=
  request.uri.route = "/ship" ∧ (request.method = .get ∨ request.method = .head)

instance (request : Http.Request) : Decidable (asksForShip request) :=
  inferInstanceAs (Decidable (_ ∧ _))

/-- The request that asks for a report with a query. -/
def shipRequest (query : String) : Http.Request :=
  { method := .get, uri := .path { path := "/ship", query := some query } }

theorem asksForShip_shipRequest (query : String) : asksForShip (shipRequest query) :=
  ⟨(by decide : (Target.mk "/ship" none).rooted = "/ship"), .inl rfl⟩

/-- What a request comes to at the routes: the events and the answer. -/
def outcome (request : Http.Request) : List Log.Event × Http.Response :=
  if asksForShip request then shipOutcome (Query.pairs request.uri.query)
  else if request.uri.route = "/ship" then
    ([], withAllow (reply .notFound (.error "Not Found")))
  else ([], reply .notFound (.error "Not Found"))

/-- The body of the answer is left out. -/
def omitsBody (request : Http.Request) : Bool :=
  request.uri.route = "/ship" && request.method = .head

theorem ship_ok (parameters : List (String × String)) :
    ship (.ok parameters) =
      .ready (shipOutcome parameters).1 (shipOutcome parameters).2 := by
  unfold shipOutcome
  cases hread : Report.ofParameters parameters <;> simp [ship, hread]

/-- The only route of the service. -/
def shipRoute : Route where
  path := "/ship"
  get := fun request => ship (.ok (Query.pairs request.uri.query))
  otherwise := fun _ => notFound

theorem find?_routes (request : Http.Request) :
    (router.routes.find? fun route => route.path = request.uri.route) =
      if request.uri.route = "/ship" then some shipRoute else none := by
  by_cases hroute : request.uri.route = "/ship"
  · simp [router, shipRoute, hroute]
  · simp [router, hroute, Ne.symm hroute]

/-- The handler of a request is done at once with what the request comes to. -/
theorem dispatch_router (request : Http.Request) :
    router.dispatch request =
      { handler := .ready (outcome request).1 (outcome request).2
        bodiless := omitsBody request } := by
  unfold Router.dispatch outcome asksForShip omitsBody
  rw [find?_routes]
  -- the path decides whether there is a route, and then the method what becomes of it
  by_cases hroute : request.uri.route = "/ship"
  · by_cases hget : request.method = .get
    · simp [hroute, hget, shipRoute, ship_ok, (by decide : Http.Method.get ≠ .head)]
    · by_cases hhead : request.method = .head
      · simp [hroute, hhead, shipRoute, ship_ok, (by decide : Http.Method.head ≠ .get)]
      · simp [hroute, hget, hhead, shipRoute, notFound, Handler.mapResponse, Handler.ready]
  · simp [hroute, notFound]

theorem status_shipOutcome (parameters : List (String × String)) :
    (shipOutcome parameters).2.status = .ok ∨
      (shipOutcome parameters).2.status = .badRequest := by
  unfold shipOutcome
  cases Report.ofParameters parameters with
  | ok report => exact .inl rfl
  | error rejection => exact .inr rfl

/-- The routes answer with one of three statuses. -/
theorem status_outcome (request : Http.Request) :
    (outcome request).2.status = .ok ∨ (outcome request).2.status = .badRequest ∨
      (outcome request).2.status = .notFound := by
  unfold outcome
  split
  next => exact (status_shipOutcome _).imp_right .inl
  next =>
    split
    next => exact .inr (.inr rfl)
    next => exact .inr (.inr rfl)

theorem outcome_of_accepted {report : Report} (hasks : asksForShip request)
    (hread : Report.ofParameters (Query.pairs request.uri.query) = .ok report) :
    outcome request = ([detectedEvent report], reply .ok (.ack report.name)) := by
  rw [outcome, if_pos hasks, shipOutcome, hread]

/-- What the routes log is about a report that was asked for. -/
theorem mem_outcome {e : Log.Event} (he : e ∈ (outcome request).1) :
    asksForShip request ∧
      ((∃ report, Report.ofParameters (Query.pairs request.uri.query) = .ok report ∧
          e = detectedEvent report) ∨
        ∃ rejection, e = rejectedEvent rejection) := by
  unfold outcome at he
  split at he
  next hasks =>
    refine ⟨hasks, ?_⟩
    unfold shipOutcome at he
    cases hread : Report.ofParameters (Query.pairs request.uri.query) with
    | ok report =>
        rw [hread] at he
        exact .inl ⟨report, rfl, List.mem_singleton.1 he⟩
    | error rejection =>
        rw [hread] at he
        exact .inr ⟨rejection, List.mem_singleton.1 he⟩
  next => split at he <;> cases he

theorem target_of_mem_outcome {e : Log.Event} (he : e ∈ (outcome request).1) :
    e.target = handlerTarget := by
  rcases (mem_outcome he).2 with ⟨report, -, rfl⟩ | ⟨rejection, rfl⟩
  · rfl
  · rfl

/-! ## Behind the layers -/

/-- The events of a completed request, in order. -/
def completedLog (watch : Stopwatch) (request : Http.Request) : List Log.Event :=
  (startedEvent :: ((outcome request).1 ++
      concludingEvents request watch 0 (outcome request).2.status ++
      if omitsBody request then [] else [endOfStreamEvent (watch 0)])).map
    (·.within (requestSpan request))

/-- The events of a request up to its answer, in order: all but the end of the body. -/
def servedLog (watch : Stopwatch) (request : Http.Request) : List Log.Event :=
  (startedEvent :: ((outcome request).1 ++
      concludingEvents request watch 0 (outcome request).2.status)).map
    (·.within (requestSpan request))

/-- The answer to a completed request. -/
def completedAnswer (watch : Stopwatch) (request : Http.Request) : Http.Response :=
  Dispatch.conclude
    { handler := .ready (outcome request).1 (outcome request).2, bodiless := omitsBody request }
    (spanned request watch 0 (outcome request).2)

@[simp] theorem status_completedAnswer (watch : Stopwatch) (request : Http.Request) :
    (completedAnswer watch request).status = (outcome request).2.status := by
  simp [completedAnswer, spanned]

/-- When the body is read, its end is logged, unless it has been left out. -/
theorem closing_completedAnswer (watch : Stopwatch) (request : Http.Request) :
    (completedAnswer watch request).closing =
      if omitsBody request then []
      else [(endOfStreamEvent (watch 0)).within (requestSpan request)] := by
  unfold completedAnswer Dispatch.conclude
  cases omitsBody request <;> rfl

theorem completedLog_eq_append (watch : Stopwatch) (request : Http.Request) :
    completedLog watch request =
      servedLog watch request ++ (completedAnswer watch request).closing := by
  rw [closing_completedAnswer, completedLog, servedLog, ← List.cons_append, List.map_append]
  cases omitsBody request <;> rfl

theorem body_completedAnswer (watch : Stopwatch) (request : Http.Request) :
    (completedAnswer watch request).body =
      if omitsBody request then "" else (outcome request).2.body := by
  unfold completedAnswer Dispatch.conclude
  cases omitsBody request <;> rfl

/-- No completed request counts as a failure of the service. -/
theorem outcomeEvents_outcome (request : Http.Request) (millis : Nat) :
    outcomeEvents (outcome request).2.status millis =
      [finishedEvent (outcome request).2.status millis] := by
  rcases status_outcome request with h | h | h <;> rw [h] <;> rfl

/-- What the layers log of a completed request besides what the routes log. -/
inductive Framing (watch : Stopwatch) (request : Http.Request) : Log.Event → Prop
  | started : Framing watch request startedEvent
  | entry : Framing watch request ((Access.Tracker.ofRequest request.method request.uri).finish
      (outcome request).2.status (watch 0))
  | finished : Framing watch request (finishedEvent (outcome request).2.status (watch 0))
  | endOfStream : Framing watch request (endOfStreamEvent (watch 0))

/-- The layers do not speak for the handlers. -/
theorem Framing.target_ne {watch : Stopwatch} {e : Log.Event} (h : Framing watch request e) :
    e.target ≠ handlerTarget := by
  cases h with
  | started => exact (by decide : "tower_http::trace::on_request" ≠ handlerTarget)
  | entry => exact (by decide : Access.target ≠ handlerTarget)
  | finished => exact (by decide : "tower_http::trace::on_response" ≠ handlerTarget)
  | endOfStream => exact (by decide : "tower_http::trace::on_eos" ≠ handlerTarget)

theorem mem_completedLog {watch : Stopwatch} {e : Log.Event}
    (he : e ∈ completedLog watch request) :
    ∃ own, e = own.within (requestSpan request) ∧
      (own ∈ (outcome request).1 ∨ Framing watch request own) := by
  obtain ⟨own, hown, rfl⟩ := List.mem_map.1 he
  refine ⟨own, rfl, ?_⟩
  simp only [concludingEvents, outcomeEvents_outcome, List.mem_cons, List.mem_append,
    List.not_mem_nil, or_false] at hown
  rcases hown with rfl | (hown | rfl | rfl) | hown
  · exact .inr .started
  · exact .inl hown
  · exact .inr .entry
  · exact .inr .finished
  · split at hown
    next => cases hown
    next => exact .inr (List.mem_singleton.1 hown ▸ .endOfStream)

/-! ## Who speaks in the log -/

theorem filter_target_completedLog (target : String) (watch : Stopwatch)
    (request : Http.Request) :
    (completedLog watch request).filter (·.target = target) =
      ((startedEvent :: ((outcome request).1 ++
          concludingEvents request watch 0 (outcome request).2.status ++
          if omitsBody request then [] else [endOfStreamEvent (watch 0)])).filter
        (·.target = target)).map (·.within (requestSpan request)) :=
  List.filter_map ..

/-- There is one access event. -/
theorem filter_access_completedLog (watch : Stopwatch) (request : Http.Request) :
    (completedLog watch request).filter (·.target = Access.target) =
      [((Access.Tracker.ofRequest request.method request.uri).finish
        (outcome request).2.status (watch 0)).within (requestSpan request)] := by
  have hown : (outcome request).1.filter (·.target = Access.target) = [] := by
    rw [List.filter_eq_nil_iff]
    intro e he
    rw [target_of_mem_outcome he]
    decide
  have hstarted : (startedEvent.target = Access.target) = False := by
    simp [startedEvent, Access.target]
  have hfinished : ((finishedEvent (outcome request).2.status (watch 0)).target =
      Access.target) = False := by
    simp [finishedEvent, Access.target]
  have hclosing : (if omitsBody request then [] else [endOfStreamEvent (watch 0)]).filter
      (·.target = Access.target) = [] := by
    cases omitsBody request <;> simp [endOfStreamEvent, Access.target]
  have hentry : ((Access.Tracker.ofRequest request.method request.uri).finish
      (outcome request).2.status (watch 0)).target = Access.target := rfl
  rw [filter_target_completedLog, concludingEvents, outcomeEvents_outcome]
  simp [hown, hstarted, hfinished, hclosing, hentry]

/-- The handlers speak only as the routes do. -/
theorem filter_handler_completedLog (watch : Stopwatch) (request : Http.Request) :
    (completedLog watch request).filter (·.target = handlerTarget) =
      (outcome request).1.map (·.within (requestSpan request)) := by
  have hown : (outcome request).1.filter (·.target = handlerTarget) = (outcome request).1 :=
    List.filter_eq_self.2 fun e he => decide_eq_true (target_of_mem_outcome he)
  have hstarted := (Framing.started : Framing watch request _).target_ne
  have hentry := (Framing.entry : Framing watch request _).target_ne
  have hfinished := (Framing.finished : Framing watch request _).target_ne
  have hclosing : (if omitsBody request then [] else [endOfStreamEvent (watch 0)]).filter
      (·.target = handlerTarget) = [] := by
    have hend := (Framing.endOfStream : Framing watch request _).target_ne
    cases omitsBody request <;> simp [hend]
  rw [filter_target_completedLog, concludingEvents, outcomeEvents_outcome]
  simp [hown, hstarted, hentry, hfinished, hclosing]

/-! ## Every request is answered at once -/

/-- The first poll of a request answers it. -/
theorem handle_poll_router (watch : Stopwatch) (request : Http.Request) :
    (router.handle watch request).poll 0 =
      (servedLog watch request, .answered (completedAnswer watch request)) := by
  have hfound := dispatch_router request
  have hpoll : (router.dispatch request).handler.poll 0 =
      ((outcome request).1, .answered (outcome request).2) := by
    rw [hfound]
    rfl
  rw [Router.handle_poll_of_answered hpoll, hfound]
  rfl

theorem poll_router (watch : Stopwatch) (request : Http.Request) :
    (Exchange.begin (router.handle watch request)).poll =
      ({ handler := router.handle watch request
         stage := .answered (completedAnswer watch request) }, servedLog watch request) := by
  simp only [Exchange.begin, Exchange.poll, handle_poll_router]

/-- Every request is answered at the first poll, with this answer and this log. -/
theorem run_router (watch : Stopwatch) (request : Http.Request) (n : Nat) :
    Exchange.run (n + 1) (router.handle watch request) =
      (some (completedAnswer watch request), completedLog watch request) := by
  rw [Exchange.run_of_answered (handle_poll_router watch request) n, completedLog_eq_append]

end ShipTelemetry.Service
