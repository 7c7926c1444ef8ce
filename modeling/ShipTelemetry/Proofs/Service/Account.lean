import Mathlib.Data.List.Basic
import ShipTelemetry.Proofs.Envelope
import ShipTelemetry.Proofs.Service.RequestLines

/-!
# The log of a request agrees with its answer

Four parts of the service speak of a request: the span layer when it begins and when it ends,
the handlers in between, and the access log.  `account` is what they say, line by line, with
the status of the answer in two of the lines; `Says` is what the handlers add, which depends on
that status and repeats what stands in the body.  `log_agrees` says that the log of every
completed request is its account, and nothing else.

The two levels differ in nothing but the lines of level `debug`.
-/

namespace ShipTelemetry.Service

open Log

variable {layout : Layout} {request : Http.Request} {watch : Stopwatch}

/-! ## What is said of a request -/

/-- What one line says, besides when and of which request. -/
structure Remark where
  level : Level
  target : String
  message : String
deriving DecidableEq, Repr

/-- The line of a remark in the log of a request. -/
def Remark.line (layout : Layout) (request : Http.Request) (r : Remark) : String :=
  Record.text
    { time := layout.time, level := r.level, span := some (requestTexts request),
      target := r.target, message := r.message }

/-- What the handlers say of a request that is answered with a status and a body, whether or not
the body is sent.  An accepted report is announced under the name that it is greeted by, and a
refused one is reported with the error in the body and the field that this error names. -/
inductive Says (request : Http.Request) : Nat → String → List Remark → Prop
  | accepted {report : Report} {body : String} :
      asksForShip request → Report.ofParameters (Query.pairs request.uri.query) = .ok report →
      Json.HoldsOnly body "greeting" ("Hello, " ++ report.name ++ "!") →
        Says request 200 body
          [⟨.info, "telemetry_service::handlers", "Detected ship " ++ report.name ++
            " in position (" ++ report.x.display ++ "," ++ report.y.display ++ ") with fuel " ++
            report.fuel.display⟩]
  | refused {rejection : Rejection} {body : String} :
      asksForShip request → Report.ofParameters (Query.pairs request.uri.query) = .error rejection →
      (∀ field : Field, (field.key ++ " ").toList <+: rejection.message.toList ↔
        field = rejection.field) →
      Json.HoldsOnly body "error" rejection.message →
        Says request 400 body
          [⟨.debug, "telemetry_service::handlers", "rejected telemetry report field=\"" ++
            rejection.field.key ++ "\" error=" ++ rejection.message⟩]
  | notFound {body : String} :
      ¬ asksForShip request → Json.HoldsOnly body "error" "Not Found" → Says request 404 body []

/-- What is said of a request that is answered with a status after so many milliseconds: its
beginning, what the handlers say, its access entry, its end, and the end of the body, unless the
body is left out. -/
def account (layout : Layout) (request : Http.Request) (status millis : Nat)
    (own : List Remark) : List Remark :=
  [⟨.debug, "tower_http::trace::on_request", "started processing request"⟩] ++ own ++
  [⟨.info, "telemetry_service::access",
      escape (request.method.name ++ " " ++ request.uri.received ++ " → " ++
        Decimal.text status ++ " (" ++ layout.millis millis ++ "ms)")⟩,
    ⟨.debug, "tower_http::trace::on_response",
      "finished processing request latency=" ++ layout.millis millis ++ " ms status=" ++
        Decimal.text status⟩] ++
  if request.uri.route = "/ship" ∧ request.method = .head then []
  else
    [⟨.debug, "tower_http::trace::on_eos",
      "end of stream stream_duration=" ++ layout.millis millis ++ " ms"⟩]

/-! ## Events as remarks -/

/-- What the line of an event says. -/
def remark (layout : Layout) (e : Event) : Remark := ⟨e.level, e.target, layout.tail e⟩

@[simp] theorem remark_within (layout : Layout) (span : Span) (e : Event) :
    remark layout (e.within span) = remark layout e := rfl

theorem Told.line_remark {e : Event} (htold : Told request e) (hplain : layout.Plain) :
    layout.event e = (remark layout e).line layout request :=
  htold.event_eq_text hplain

/-- An event whose message needs no escape says its message and its fields. -/
theorem remark_of_message {e : Event} {message : String} (hmessage : e.message = [.text message])
    (hordinary : Text.All Text.isOrdinary message) :
    remark layout e = ⟨e.level, e.target,
      " ".intercalate (message :: e.fields.map fun f => f.name ++ "=" ++ layout.text f.value)⟩ := by
  rw [remark, Layout.tail, hmessage, Layout.text_text, escape_eq_self hordinary]
  rfl

theorem remark_startedEvent (layout : Layout) :
    remark layout startedEvent =
      ⟨.debug, "tower_http::trace::on_request", "started processing request"⟩ := by
  rw [remark_of_message rfl (by decide)]
  rfl

theorem remark_detectedEvent {report : Report}
    (hread : Report.ofParameters (Query.pairs request.uri.query) = .ok report) :
    remark layout (detectedEvent report) = ⟨.info, handlerTarget, report.announcement⟩ := by
  have hordinary : Text.All Text.isOrdinary report.announcement :=
    all_announcement Text.admitsPrintable_isOrdinary (Report.all_isOrdinary_name hread)
  rw [remark_of_message rfl hordinary]
  simp [detectedEvent]

theorem remark_rejectedEvent (layout : Layout) (rejection : Rejection) :
    remark layout (rejectedEvent rejection) =
      ⟨.debug, handlerTarget, "rejected telemetry report field=\"" ++ rejection.field.key ++
        "\" error=" ++ rejection.message⟩ := by
  have hopening : ("rejected telemetry report field=\"" : String) =
      "rejected telemetry report" ++ " " ++ "field" ++ "=" ++ "\"" := rfl
  have hmiddle : ("\" error=" : String) = "\"" ++ " " ++ "error" ++ "=" := rfl
  have hquoted : Text.Quoted.encode rejection.field.key =
      "\"" ++ rejection.field.key ++ "\"" := by
    cases rejection.field <;> decide +kernel
  rw [remark_of_message rfl (by decide), hopening, hmiddle]
  simp only [rejectedEvent, Field.quoted, Field.plain, hquoted, Layout.text_text, List.map_cons,
    List.map_nil, String.intercalate_cons_cons, String.intercalate_singleton,
    String.append_assoc]

theorem remark_finish (layout : Layout) (request : Http.Request) (status : Http.Status)
    (millis : Nat) :
    remark layout ((Access.Tracker.ofRequest request.method request.uri).finish status millis) =
      ⟨.info, "telemetry_service::access",
        escape (request.method.name ++ " " ++ request.uri.received ++ " → " ++
          Decimal.text status.code ++ " (" ++ layout.millis millis ++ "ms)")⟩ := by
  simp [remark, Layout.tail, Access.Tracker.finish, Access.Tracker.entry, Access.Tracker.ofRequest,
    Access.Entry.event, Access.Entry.message, Access.target, Layout.text, Layout.piece,
    String.join_cons, String.append_assoc]

/-- A duration with its unit. -/
theorem text_millis (layout : Layout) (millis : Nat) (unit : String) :
    layout.text [.millis millis, .text unit] = layout.millis millis ++ unit := by
  simp [Layout.text, Layout.piece, String.join_cons]

theorem remark_finishedEvent (layout : Layout) (status : Http.Status) (millis : Nat) :
    remark layout (finishedEvent status millis) =
      ⟨.debug, "tower_http::trace::on_response",
        "finished processing request latency=" ++ layout.millis millis ++ " ms status=" ++
          Decimal.text status.code⟩ := by
  have hopening : ("finished processing request latency=" : String) =
      "finished processing request" ++ " " ++ "latency" ++ "=" := rfl
  have hmiddle : (" ms status=" : String) = " ms" ++ " " ++ "status" ++ "=" := rfl
  rw [remark_of_message rfl (by decide), hopening, hmiddle]
  simp only [finishedEvent, Field.plain, text_millis, Layout.text_text, List.map_cons,
    List.map_nil, String.intercalate_cons_cons, String.intercalate_singleton,
    String.append_assoc]

theorem remark_endOfStreamEvent (layout : Layout) (millis : Nat) :
    remark layout (endOfStreamEvent millis) =
      ⟨.debug, "tower_http::trace::on_eos",
        "end of stream stream_duration=" ++ layout.millis millis ++ " ms"⟩ := by
  have hopening : ("end of stream stream_duration=" : String) =
      "end of stream" ++ " " ++ "stream_duration" ++ "=" := rfl
  rw [remark_of_message rfl (by decide), hopening]
  simp only [endOfStreamEvent, text_millis, List.map_cons, List.map_nil,
    String.intercalate_cons_cons, String.intercalate_singleton, String.append_assoc]

/-! ## What the handlers say -/

/-- The error of a refused report names its field, and no other. -/
theorem key_isPrefix_message_iff (rejection : Rejection) (field : Field) :
    (field.key ++ " ").toList <+: rejection.message.toList ↔ field = rejection.field := by
  obtain ⟨own, fault⟩ := rejection
  cases own <;> cases fault <;> cases field <;> decide

/-- The handlers say what the status and the body of the answer ask for. -/
theorem says_outcome (layout : Layout) (request : Http.Request) :
    Says request (outcome request).2.status.code (outcome request).2.body
      ((outcome request).1.map (remark layout)) := by
  by_cases hasks : asksForShip request
  · rw [outcome, if_pos hasks, shipOutcome]
    cases hread : Report.ofParameters (Query.pairs request.uri.query) with
    | ok report =>
      dsimp only
      rw [List.map_singleton, remark_detectedEvent hread]
      exact .accepted hasks hread (Envelope.ack report.name).holdsOnly_body
    | error rejection =>
      dsimp only
      rw [List.map_singleton, remark_rejectedEvent]
      exact .refused hasks hread (key_isPrefix_message_iff rejection)
        (Envelope.error rejection.message).holdsOnly_body
  · have hbody := (Envelope.error "Not Found").holdsOnly_body
    rw [outcome, if_neg hasks]
    split
    next => exact .notFound hasks hbody
    next => exact .notFound hasks hbody

/-! ## The whole log -/

/-- The log of a completed request is its account. -/
theorem map_remark_completedLog (layout : Layout) (watch : Stopwatch) (request : Http.Request) :
    (completedLog watch request).map (remark layout) =
      account layout request (outcome request).2.status.code (watch 0)
        ((outcome request).1.map (remark layout)) := by
  have hclosing : (if omitsBody request then [] else [endOfStreamEvent (watch 0)]).map
      (remark layout) =
        if request.uri.route = "/ship" ∧ request.method = .head then []
        else [⟨.debug, "tower_http::trace::on_eos",
          "end of stream stream_duration=" ++ layout.millis (watch 0) ++ " ms"⟩] := by
    simp only [omitsBody, Bool.and_eq_true, decide_eq_true_eq]
    split
    next => rfl
    next => rw [List.map_singleton, remark_endOfStreamEvent]
  rw [completedLog, List.map_map]
  change List.map (remark layout) _ = _
  simp only [concludingEvents, outcomeEvents_outcome, List.map_cons, List.map_append,
    List.map_nil, hclosing, remark_startedEvent, remark_finish, remark_finishedEvent]
  simp only [account, List.append_assoc, List.cons_append, List.nil_append]

/-- Nothing but details and information is logged of a completed request. -/
theorem level_of_mem_completedLog {e : Event} (he : e ∈ completedLog watch request) :
    e.level = .info ∨ e.level = .debug := by
  obtain ⟨own, rfl, hown | hframing⟩ := mem_completedLog he
  · rcases (mem_outcome hown).2 with ⟨report, -, rfl⟩ | ⟨rejection, rfl⟩
    · exact .inl rfl
    · exact .inr rfl
  · cases hframing with
    | started => exact .inr rfl
    | entry => exact .inl rfl
    | finished => exact .inr rfl
    | endOfStream => exact .inr rfl

theorem writtenLog_debug (watch : Stopwatch) (request : Http.Request) :
    writtenLog .debug watch request = completedLog watch request := by
  refine List.filter_eq_self.2 fun e he => ?_
  rcases level_of_mem_completedLog he with h | h <;> rw [h] <;> decide

theorem writtenLog_info (watch : Stopwatch) (request : Http.Request) :
    writtenLog .info watch request =
      (completedLog watch request).filter fun e => e.level ≠ .debug := by
  refine List.filter_congr fun e he => ?_
  rcases level_of_mem_completedLog he with h | h <;> rw [h] <;> decide

theorem map_event_writtenLog (level : Level) (watch : Stopwatch) (hplain : layout.Plain)
    (huri : request.uri.Visible) :
    (writtenLog level watch request).map layout.event =
      ((writtenLog level watch request).map (remark layout)).map
        (Remark.line layout request) := by
  rw [List.map_map]
  exact List.map_congr_left fun e he => (told_of_mem_writtenLog huri he).line_remark hplain

/-- The log of every completed request is its account, line by line, with the status of the answer
and with what that status and the body ask the handlers to say; at level `info` it is the same
without the lines of level `debug`.  A handler that is given a reason instead of parameters
answers with this reason and says nothing. -/
theorem log_agrees {layout : Layout} (hplain : layout.Plain) {text : String} {uri : Uri}
    (hread : Uri.read? text = .ok uri) (method : Http.Method) (version : Http.Version)
    (watch : Stopwatch) (n : Nat) :
    let request : Http.Request := { method, uri, version }
    (∃ answer log, Exchange.run (n + 1) (router.handle watch request) = (some answer, log) ∧
      ∃ body own, Says request answer.status.code body own ∧
        (answer.body = if uri.route = "/ship" ∧ method = .head then "" else body) ∧
        layout.lines ((Filter.upTo .debug).apply log) =
          (account layout request answer.status.code (watch 0) own).map
            (Remark.line layout request) ∧
        layout.lines ((Filter.upTo .info).apply log) =
          ((account layout request answer.status.code (watch 0) own).filter
            (·.level ≠ .debug)).map (Remark.line layout request)) ∧
    ∀ reason : String, ∃ answer, Exchange.run (n + 1) (ship (.error reason)) = (some answer, []) ∧
      answer.status.code = 400 ∧ Json.HoldsOnly answer.body "error" reason := by
  intro request
  have huri : request.uri.Visible := Uri.visible_of_read? hread
  have haccount := map_remark_completedLog layout watch request
  refine ⟨⟨_, _, run_router watch request n, (outcome request).2.body,
    (outcome request).1.map (remark layout), ?_, ?_, ?_, ?_⟩, fun reason => ?_⟩
  · rw [status_completedAnswer]
    exact says_outcome layout request
  · rw [body_completedAnswer]
    simp only [omitsBody, Bool.and_eq_true, decide_eq_true_eq]
    rfl
  · rw [apply_upTo_completedLog watch (by decide) huri, lines_writtenLog _ watch hplain huri,
      map_event_writtenLog _ watch hplain huri, writtenLog_debug, haccount,
      status_completedAnswer]
  · rw [apply_upTo_completedLog watch (by decide) huri, lines_writtenLog _ watch hplain huri,
      map_event_writtenLog _ watch hplain huri, writtenLog_info, status_completedAnswer,
      ← haccount, List.filter_map]
    rfl
  · have hpoll : (ship (.error reason)).poll 0 =
        ([], .answered (reply .badRequest (.error reason))) := rfl
    exact ⟨_, Exchange.run_of_answered hpoll n, rfl, (Envelope.error reason).holdsOnly_body⟩

/-- A query for a report with less than no fuel. -/
def negativeFuelQuery : String := "name=Argo&x=1&y=2&fuel=-1"

/-- The beginning of a line in the log of a request with this query. -/
def negativeFuelLine (level rest : String) : String :=
  "now " ++ level ++ " request\x7bmethod=GET uri=/ship?name=Argo&x=1&y=2&fuel=-1 " ++
    "version=HTTP/1.1\x7d: " ++ rest

theorem log_agrees_refused :
    ∃ answer log, Exchange.run 1 (router.handle (fun _ => 7) {
        method := .get, uri := .path { path := "/ship", query := some negativeFuelQuery },
        version := .http11 }) = (some answer, log) ∧
      answer.status.code = 400 ∧
      Json.readObject? answer.body = some [("error", "fuel must be a non-negative number")] ∧
      (Layout.inDecimal "now").lines ((Filter.upTo .debug).apply log) = [
        negativeFuelLine "DEBUG" "tower_http::trace::on_request: started processing request",
        negativeFuelLine "DEBUG" ("telemetry_service::handlers: rejected telemetry report " ++
          "field=\"fuel\" error=fuel must be a non-negative number"),
        negativeFuelLine " INFO" ("telemetry_service::access: " ++
          "GET /ship?name=Argo&x=1&y=2&fuel=-1 → 400 (7ms)"),
        negativeFuelLine "DEBUG" ("tower_http::trace::on_response: finished processing request " ++
          "latency=7 ms status=400"),
        negativeFuelLine "DEBUG" "tower_http::trace::on_eos: end of stream stream_duration=7 ms"] ∧
      (Layout.inDecimal "now").lines ((Filter.upTo .info).apply log) = [
        negativeFuelLine " INFO" ("telemetry_service::access: " ++
          "GET /ship?name=Argo&x=1&y=2&fuel=-1 → 400 (7ms)")] := by
  have hplain : (Layout.inDecimal "now").Plain := Layout.plain_inDecimal (by decide) (by decide)
  have huri : Uri.read? ("/ship" ++ "?" ++ negativeFuelQuery) =
      .ok (.path { path := "/ship", query := some negativeFuelQuery }) :=
    Uri.read?_append (by decide) (by decide) (by decide) (by decide)
  have hrefused : Report.ofParameters (Query.pairs negativeFuelQuery) =
      .error ⟨.fuel, .negative⟩ := by decide +kernel
  obtain ⟨⟨answer, log, hrun, body, own, hsays, hbody, hdebug, hinfo⟩, -⟩ :=
    log_agrees hplain huri .get .http11 (fun _ => 7) 0
  generalize hcode : answer.status.code = code at hsays hdebug hinfo
  have hsent : ¬ (Uri.route (.path { path := "/ship", query := some negativeFuelQuery }) = "/ship" ∧
      Http.Method.get = .head) := fun h => absurd h.2 (by decide)
  rw [if_neg hsent] at hbody
  cases hsays with
  | accepted _ haccepted _ =>
    cases hrefused.symm.trans haccepted
  | refused _ hread _ hholds =>
    obtain rfl := Except.error.inj (hrefused.symm.trans hread)
    refine ⟨answer, log, hrun, hcode, ?_, ?_, ?_⟩
    · rw [hbody]
      exact hholds.read
    · rw [hdebug]
      decide +kernel
    · rw [hinfo]
      decide +kernel
  | notFound hasks _ => exact absurd ⟨by decide, .inl rfl⟩ hasks

end ShipTelemetry.Service
