import ShipTelemetry.Report
import ShipTelemetry.Service.Layers
import ShipTelemetry.Uri

/-!
# Routes

A router finds the handler for a request.  The path is compared as received.  A route
answers `GET`, and `HEAD` as `GET` without the body; what it does with other methods is its
own choice, but the answer names the two methods it allows.  The length of the body is
announced in every answer, also when the body itself is left out.

The service has one route, `/ship`, which takes a report from the query.  Everything else is
not found, and so is that route for other methods.

Drill routes exercise the layers: with handlers that stall, panic with a text or with something
else, or answer with a bare status.
-/

namespace ShipTelemetry.Service

/-! ## Answers of routes -/

/-- An answer that announces the length of its body. -/
def withLength (r : Http.Response) : Http.Response :=
  { r with headers := r.headers ++ [("content-length", Decimal.text r.body.utf8ByteSize)] }

/-- An answer without its body, which is then not read. -/
def withoutBody (r : Http.Response) : Http.Response :=
  { r with body := "", closing := [] }

/-- An answer that names the methods of a route. -/
def withAllow (r : Http.Response) : Http.Response :=
  { r with headers := r.headers ++ [("allow", "GET,HEAD")] }

/-- There is nothing here. -/
def notFound : Handler := .ready [] (reply .notFound (.error "Not Found"))

/-- The method is not allowed here. -/
def methodNotAllowed : Handler :=
  .ready [] { status := .methodNotAllowed, headers := [], body := "" }

/-! ## Routes and routers -/

/-- A path, the handler of its `GET` requests, and the handler of all others. -/
structure Route where
  path : String
  get : Http.Request → Handler
  otherwise : Http.Request → Handler := fun _ => methodNotAllowed

/-- Routes, tried in order, in front of `notFound`. -/
structure Router where
  routes : List Route

/-- The handler for a request, and whether the body of its answer is left out. -/
structure Dispatch where
  handler : Handler
  bodiless : Bool := false

namespace Router

/-- Finds the handler for a request. -/
def dispatch (r : Router) (request : Http.Request) : Dispatch :=
  match r.routes.find? fun route => route.path = request.uri.route with
  | none => { handler := notFound }
  | some route =>
      if request.method = .get then { handler := route.get request }
      else if request.method = .head then { handler := route.get request, bodiless := true }
      else { handler := (route.otherwise request).mapResponse withAllow }

/-- The handler for a request, with its layers.  The body is left out last, after its length
has been announced. -/
def handle (r : Router) (watch : Stopwatch) (request : Http.Request) : Handler :=
  let found := r.dispatch request
  let whole := (layered request watch found.handler).mapResponse withLength
  if found.bodiless then whole.mapResponse withoutBody else whole

end Router

/-! ## Ship reports -/

/-- The event that announces a report. -/
def detectedEvent (report : Report) : Log.Event :=
  { level := .info, target := handlerTarget, message := [.text report.announcement] }

/-- The event that says why a report was refused. -/
def rejectedEvent (rejection : Rejection) : Log.Event :=
  { level := .debug, target := handlerTarget, message := [.text "rejected telemetry report"],
    fields := [.quoted "field" rejection.field.key, .plain "error" rejection.message] }

/-- Answers a report, given its parameters, or the reason why there are none. -/
def ship (parameters : Except String (List (String × String))) : Handler :=
  match parameters with
  | .error reason => .ready [] (reply .badRequest (.error reason))
  | .ok pairs =>
      match Report.ofParameters pairs with
      | .ok report => .ready [detectedEvent report] (reply .ok (.ack report.name))
      | .error rejection =>
          .ready [rejectedEvent rejection] (reply .badRequest (.error rejection.message))

/-- The router of the service. -/
def router : Router where
  routes :=
    [{ path := "/ship"
       get := fun request => ship (.ok (Query.pairs request.uri.query))
       otherwise := fun _ => notFound }]

/-! ## Drills -/

/-- What the drill routes do. -/
structure Drill where
  panic : String := "reactor breach"
  status : Nat := 204
deriving DecidableEq, Repr

namespace Drill

/-- Answers with a bare status.  A code that is no status makes the handler panic. -/
def bare (code : Nat) : Handler :=
  match Http.Status.ofCode? code with
  | some status => .ready [] { status, headers := [], body := "" }
  | none => .panicking (.text "status: InvalidStatusCode")

/-- The drill routes. -/
def router (d : Drill) : Router where
  routes :=
    [{ path := "/stall", get := fun _ => .stalled },
     { path := "/panic-str", get := fun _ => .panicking (.text d.panic) },
     { path := "/panic-string", get := fun _ => .panicking (.text d.panic) },
     { path := "/panic-other", get := fun _ => .panicking .other },
     { path := "/status", get := fun _ => bare d.status }]

end Drill

/-! ## Numbered queries -/

/-- The parameters of a query whose values must be numerals of 32 bits, written again
without leading zeros; or, for the first value that is none, why. -/
def numberedParameters (query : String) : Except String (List (String × String)) :=
  (Query.pairs query).mapM fun pair =>
    match Decimal.readNumeral (UInt32.size - 1) pair.2.toList with
    | .ok n => .ok (pair.1, Decimal.text n)
    | .error e => .error ("Failed to deserialize query string: " ++ e.message)

end ShipTelemetry.Service
