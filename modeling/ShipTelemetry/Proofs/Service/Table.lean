import ShipTelemetry.Proofs.Report.Reading
import ShipTelemetry.Proofs.Service.Completed
import ShipTelemetry.Proofs.Uri.Reading

/-!
# The table of answers

What a completed request is answered depends on its method, the path of its target as
received, and the parameters in its query, in this way:

| path    | method      | parameters | status | body                  | allow    |
|---------|-------------|------------|--------|-----------------------|----------|
| `/ship` | `GET`       | accepted   | 200    | the greeting          |          |
| `/ship` | `GET`       | refused    | 400    | one of twelve errors  |          |
| `/ship` | `HEAD`      | as `GET`   |        | none, but its length  |          |
| `/ship` | any other   |            | 404    | not found             | GET,HEAD |
| others  | any         |            | 404    | not found             |          |

`run_eq_row` says that the service answers every request by this table and by nothing else.
-/

namespace ShipTelemetry.Service

/-! ## The table -/

/-- A row of the table.  The length of the body is announced whether or not the body itself
is sent. -/
structure Row where
  status : Nat
  body : String
  allow : Bool := false
  sent : Bool := true

namespace Row

/-- The headers of an answer, in order. -/
def headers (r : Row) : List (String × String) :=
  ("content-type", "application/json") ::
    ((if r.allow then [("allow", "GET,HEAD")] else []) ++
      [("content-length", Decimal.text r.body.utf8ByteSize)])

/-- The answer that a row asks for. -/
def Describes (r : Row) (answer : Http.Response) : Prop :=
  answer.status.code = r.status ∧ answer.headers = r.headers ∧
    answer.body = if r.sent then r.body else ""

end Row

/-- The body of every answer with status 404. -/
def notFoundBody : String := "\x7b\"error\":\"Not Found\"\x7d"

/-- The row for a method, a path and parameters. -/
def row (method path : String) (parameters : List (String × String)) : Row :=
  if path = "/ship" then
    if method = "GET" ∨ method = "HEAD" then
      match Report.ofParameters parameters with
      | .ok report =>
          { status := 200, sent := method = "GET"
            body := Json.singleton "greeting" ("Hello, " ++ report.name ++ "!") }
      | .error rejection =>
          { status := 400, sent := method = "GET"
            body := Json.singleton "error" rejection.message }
    else { status := 404, body := notFoundBody, allow := true }
  else { status := 404, body := notFoundBody }

/-- The wordings of all rejections. -/
def rejectionTexts : List String :=
  ["name is required", "name must not contain control characters",
    "x is required", "x must not contain control characters", "x must be a number",
    "y is required", "y must not contain control characters", "y must be a number",
    "fuel is required", "fuel must not contain control characters", "fuel must be a number",
    "fuel must be a non-negative number"]

theorem message_mem_rejectionTexts {rejection : Rejection}
    (h : rejection ∈ Report.rejections) : rejection.message ∈ rejectionTexts := by
  have hmessages : Report.rejections.map Rejection.message = rejectionTexts := by decide
  rw [← hmessages]
  exact List.mem_map_of_mem h

/-! ## Every request is answered by the table -/

variable {request : Http.Request} {watch : Stopwatch}

theorem method_eq_get_iff {method : Http.Method} : method = .get ↔ method.name = "GET" := by
  obtain ⟨name, hname⟩ := method
  simp [Http.Method.get]

theorem method_eq_head_iff {method : Http.Method} : method = .head ↔ method.name = "HEAD" := by
  obtain ⟨name, hname⟩ := method
  simp [Http.Method.head]

/-- The row of a request. -/
def rowOf (request : Http.Request) : Row :=
  row request.method.name request.uri.route (Query.pairs request.uri.query)

theorem rowOf_of_not_ship (hroute : request.uri.route ≠ "/ship") :
    rowOf request = { status := 404, body := notFoundBody } := by
  simp [rowOf, row, hroute]

theorem rowOf_of_other_method (hroute : request.uri.route = "/ship")
    (hasks : ¬ asksForShip request) :
    rowOf request = { status := 404, body := notFoundBody, allow := true } := by
  have hmethod : ¬ (request.method.name = "GET" ∨ request.method.name = "HEAD") := by
    rw [← method_eq_get_iff, ← method_eq_head_iff]
    exact fun h => hasks ⟨hroute, h⟩
  unfold rowOf row
  rw [if_pos hroute, if_neg hmethod]

theorem rowOf_of_asksForShip (hasks : asksForShip request) :
    rowOf request =
      match Report.ofParameters (Query.pairs request.uri.query) with
      | .ok report =>
          { status := 200, sent := request.method.name = "GET"
            body := Json.singleton "greeting" ("Hello, " ++ report.name ++ "!") }
      | .error rejection =>
          { status := 400, sent := request.method.name = "GET"
            body := Json.singleton "error" rejection.message } := by
  have hmethod : request.method.name = "GET" ∨ request.method.name = "HEAD" := by
    rw [← method_eq_get_iff, ← method_eq_head_iff]
    exact hasks.2
  unfold rowOf row
  rw [if_pos hasks.1, if_pos hmethod]

/-- The body of an answer is left out where the row says so. -/
theorem sent_rowOf (request : Http.Request) : (rowOf request).sent = !omitsBody request := by
  by_cases hasks : asksForShip request
  · have homits : omitsBody request = decide (request.method = .head) := by
      simp [omitsBody, hasks.1]
    rw [rowOf_of_asksForShip hasks, homits]
    cases Report.ofParameters (Query.pairs request.uri.query) <;>
      rcases hasks.2 with hmethod | hmethod <;> simp [hmethod] <;> decide
  · by_cases hroute : request.uri.route = "/ship"
    · have hhead : request.method ≠ .head := fun h => hasks ⟨hroute, .inr h⟩
      simp [rowOf_of_other_method hroute hasks, omitsBody, hhead]
    · simp [rowOf_of_not_ship hroute, omitsBody, hroute]

/-- The routes answer as the row says. -/
theorem outcome_eq_rowOf (request : Http.Request) :
    (outcome request).2.status.code = (rowOf request).status ∧
      (outcome request).2.headers = ("content-type", "application/json") ::
        (if (rowOf request).allow then [("allow", "GET,HEAD")] else []) ∧
      (outcome request).2.body = (rowOf request).body := by
  have hbody : (Envelope.error "Not Found").body = notFoundBody := by decide
  by_cases hasks : asksForShip request
  · rw [rowOf_of_asksForShip hasks, outcome, if_pos hasks, shipOutcome]
    cases Report.ofParameters (Query.pairs request.uri.query) with
    | ok report => exact ⟨rfl, rfl, rfl⟩
    | error rejection => exact ⟨rfl, rfl, rfl⟩
  · rw [outcome, if_neg hasks]
    by_cases hroute : request.uri.route = "/ship"
    · rw [rowOf_of_other_method hroute hasks, if_pos hroute]
      exact ⟨rfl, rfl, hbody⟩
    · rw [rowOf_of_not_ship hroute, if_neg hroute]
      exact ⟨rfl, rfl, hbody⟩

theorem describes_completedAnswer (watch : Stopwatch) (request : Http.Request) :
    (rowOf request).Describes (completedAnswer watch request) := by
  obtain ⟨hstatus, hheaders, hbody⟩ := outcome_eq_rowOf request
  unfold Row.Describes Row.headers completedAnswer Dispatch.conclude
  rw [sent_rowOf, ← hbody, ← hstatus]
  cases homits : omitsBody request <;>
    simp [withLength, withoutBody, spanned, hheaders]

/-- A refused report is answered with one of twelve texts. -/
theorem body_of_badRequest (hstatus : (rowOf request).status = 400) :
    ∃ text ∈ rejectionTexts, (rowOf request).body = Json.singleton "error" text := by
  by_cases hasks : asksForShip request
  · rw [rowOf_of_asksForShip hasks] at hstatus ⊢
    cases hread : Report.ofParameters (Query.pairs request.uri.query) with
    | ok report => simp [hread] at hstatus
    | error rejection =>
        have hmember := Report.ofParameters_eq_error hread
        exact ⟨_, message_mem_rejectionTexts hmember, rfl⟩
  · by_cases hroute : request.uri.route = "/ship"
    · simp [rowOf_of_other_method hroute hasks] at hstatus
    · simp [rowOf_of_not_ship hroute] at hstatus

/-- The handler never answers for want of parameters: that answer would be refused without an
event. -/
theorem handler_dispatch_ne (request : Http.Request) (reason : String) :
    (router.dispatch request).handler ≠ ship (.error reason) := by
  rw [dispatch_router]
  intro hhandler
  have hpoll : ((outcome request).1, Progress.answered (outcome request).2) =
      ([], .answered (reply .badRequest (.error reason))) :=
    congrFun (congrArg Handler.poll hhandler) 0
  obtain ⟨hevents, hanswer⟩ := Prod.mk.inj hpoll
  have hstatus : (outcome request).2.status = .badRequest := by
    rw [Progress.answered.inj hanswer]
    rfl
  -- a report that was asked for leaves an event, and nothing else is refused
  unfold outcome shipOutcome at hevents hstatus
  split at hevents
  next hasks =>
    cases hread : Report.ofParameters (Query.pairs request.uri.query) <;>
      simp [hread] at hevents
  next hasks =>
    rw [if_neg hasks] at hstatus
    split at hstatus <;> exact absurd hstatus (by decide)

/-- Every request is answered at once and by the table, so with status 200, 400 or 404.  The
path in the table is the one received; a refusal has one of twelve texts, whatever the client
sent; and parameters are always there to be looked at. -/
theorem run_eq_row (watch : Stopwatch) (request : Http.Request) (n : Nat) :
    let expected := row request.method.name request.uri.route (Query.pairs request.uri.query)
    ∃ answer log, Exchange.run (n + 1) (router.handle watch request) = (some answer, log) ∧
      expected.Describes answer ∧
      (answer.status.code = 200 ∨ answer.status.code = 400 ∨ answer.status.code = 404) ∧
      (answer.status.code = 400 →
        ∃ text ∈ rejectionTexts, expected.body = Json.singleton "error" text) ∧
      (∀ reason, (router.dispatch request).handler ≠ ship (.error reason)) ∧
      ∀ text, Uri.read? text = .ok request.uri → text.toList.head? = some '/' →
        request.uri.route = String.ofList (text.toList.takeWhile fun c => c ≠ '?' && c ≠ '#') := by
  have hdescribes := describes_completedAnswer watch request
  have hstatus : (completedAnswer watch request).status.code = 200 ∨
      (completedAnswer watch request).status.code = 400 ∨
        (completedAnswer watch request).status.code = 404 := by
    unfold completedAnswer
    rw [Dispatch.conclude_status, spanned]
    exact (status_outcome request).imp (congrArg _) (Or.imp (congrArg _) (congrArg _))
  refine ⟨_, _, run_router watch request n, hdescribes, hstatus, ?_, ?_, ?_⟩
  · intro hrefused
    exact body_of_badRequest (hdescribes.1.symm.trans hrefused)
  · exact handler_dispatch_ne request
  · exact fun text hread hslash => Uri.route_of_read?_slash hread hslash

end ShipTelemetry.Service
