import ShipTelemetry.Proofs.Log.Durations
import ShipTelemetry.Proofs.Service.Account
import ShipTelemetry.Proofs.Text.Quoted

/-!
# Panics are recovered from

A handler may panic at any poll, with any text or with something else.  The request is answered
all the same, and what the panic carried goes to the log and nowhere else.

## Strategy

The innermost layer turns the panic into an event and a fixed answer (`run_of_panics`).  The two
other layers see this answer only, so neither the access entry nor what follows it depends on the
panic.  The event has the text of the panic in a quoted field: the line stays one line, because no
control character is left in a quoted text, and the text is read back from it.
-/

namespace ShipTelemetry.Service

open Log Text

variable {layout : Layout} {request : Http.Request} {watch : Stopwatch} {level : Level} {k : Nat}
  {own : List Event} {payload : Payload}

/-! ## Handlers that panic -/

/-- The handler panics at poll `k`, and has logged these events by then. -/
structure Handler.Panics (h : Handler) (k : Nat) (own : List Event) (payload : Payload) : Prop where
  pending : ∀ j < k, (h.poll j).2 = .pending
  panicked : (h.poll k).2 = .panicked payload
  logged : (List.range (k + 1)).flatMap (fun j => (h.poll j).1) = own

/-- The answer to a request whose handler panicked at poll `k`. -/
def panicAnswer (watch : Stopwatch) (request : Http.Request) (k : Nat) : Http.Response :=
  let whole := withLength (spanned request watch k panicReply)
  if request.method = .head then withoutBody whole else whole

/-- What is logged after a panic at poll `k`. -/
def afterPanic (watch : Stopwatch) (request : Http.Request) (k : Nat) : List Event :=
  (outcomeEvents .internalServerError (watch k)).map (·.within (requestSpan request)) ++
    (panicAnswer watch request k).closing

/-- The body is left out if the method is `HEAD`: where there is no route, there is no panic. -/
theorem Router.bodiless_of_panicked {r : Router}
    (h : ((r.dispatch request).handler.poll k).2 = .panicked payload) :
    (r.dispatch request).bodiless = decide (request.method = .head) := by
  have hne : ¬ Http.Method.head = .get := by decide
  unfold Router.dispatch at h ⊢
  split at h
  next => cases h
  next route hroute =>
    by_cases hhead : request.method = .head
    · simp [hhead, hne]
    · by_cases hget : request.method = .get <;> simp [hhead, hget, Ne.symm hne]

theorem conclude_of_panicked {r : Router}
    (h : ((r.dispatch request).handler.poll k).2 = .panicked payload) :
    (r.dispatch request).conclude (spanned request watch k panicReply) =
      panicAnswer watch request k := by
  unfold Dispatch.conclude panicAnswer
  rw [Router.bodiless_of_panicked h]
  simp only [decide_eq_true_eq]

/-- The request begins once, whichever poll ends it. -/
theorem flatMap_openingEvents (events : Nat → List Event) (k : Nat) :
    ((List.range (k + 1)).flatMap fun j => openingEvents j ++ events j) =
      startedEvent :: (List.range (k + 1)).flatMap events := by
  induction k with
  | zero => rfl
  | succ k ih =>
    have hlast : List.range (k + 1 + 1) = List.range (k + 1) ++ [k + 1] := List.range_succ
    rw [hlast, List.flatMap_append, List.flatMap_append, ih]
    simp [openingEvents]

theorem run_of_panics {r : Router} (hpanics : (r.dispatch request).handler.Panics k own payload)
    (watch : Stopwatch) (n : Nat) :
    Exchange.run (k + (n + 1)) (r.handle watch request) =
      (some (panicAnswer watch request k),
        (startedEvent :: own).map (·.within (requestSpan request)) ++
          ([payload.event.within (requestSpan request)] ++
            ([((Access.Tracker.ofRequest request.method request.uri).finish .internalServerError
              (watch k)).within (requestSpan request)] ++
              afterPanic watch request k))) := by
  obtain ⟨hpending, hpanicked, hlogged⟩ := hpanics
  have hbefore : ∀ j < k, (r.handle watch request).poll j =
      ((openingEvents j ++ ((r.dispatch request).handler.poll j).1).map
        (·.within (requestSpan request)), .pending) := fun j hj =>
    Router.handle_poll_of_pending (Prod.ext rfl (hpending j hj))
  have hpoll : (r.handle watch request).poll k = _ :=
    Router.handle_poll_of_panicked (Prod.ext rfl hpanicked)
  have hpolls : ((List.range k).flatMap fun j => ((r.handle watch request).poll j).1) =
      ((List.range k).flatMap fun j =>
        openingEvents j ++ ((r.dispatch request).handler.poll j).1).map
          (·.within (requestSpan request)) := by
    rw [List.map_flatMap]
    exact List.flatMap_congr fun j hj => by rw [hbefore j (List.mem_range.1 hj)]
  -- the events of all polls up to this one
  have hown : ((List.range k).flatMap fun j =>
      openingEvents j ++ ((r.dispatch request).handler.poll j).1) ++
        (openingEvents k ++ ((r.dispatch request).handler.poll k).1) = startedEvent :: own := by
    rw [← hlogged, ← flatMap_openingEvents, List.range_succ, List.flatMap_append,
      List.flatMap_singleton]
  rw [Exchange.run_of_answered_at (fun j hj => by rw [hbefore j hj]) hpoll n, hpolls,
    conclude_of_panicked hpanicked, ← hown]
  simp only [concludingEvents, afterPanic, panicReply, reply, List.map_append, List.map_cons,
    List.append_assoc, List.cons_append, List.nil_append]

/-! ## The lines after a panic -/

theorem told_payload (payload : Payload) (request : Http.Request) :
    Told request (payload.event.within (requestSpan request)) := by
  have htarget : All isTargetCharacter handlerTarget := by decide
  have hquoted : All isUnbroken (Quoted.encode payload.detail) :=
    (Quoted.all_isOrdinary_encode payload.detail).imp isUnbroken_of_isOrdinary
  refine told_within rfl htarget (Layout.eventAll_text rfl (by decide) fun f hf => ?_)
  obtain rfl := List.mem_singleton.1 hf
  exact Layout.fieldAll_plain (by decide) hquoted

theorem remark_payload (layout : Layout) (payload : Payload) :
    remark layout payload.event =
      ⟨.error, handlerTarget, "handler panicked panic=" ++ Quoted.encode payload.detail⟩ := by
  have hopening : ("handler panicked panic=" : String) =
      "handler panicked" ++ " " ++ "panic" ++ "=" := rfl
  rw [remark_of_message rfl (by decide), hopening]
  simp only [Payload.event, Field.quoted, Layout.text_text, List.map_cons, List.map_nil,
    String.intercalate_cons_cons, String.intercalate_singleton, String.append_assoc]

/-- An event that is let through is one line. -/
theorem Told.lines_apply {e : Event} (htold : Told request e) (hplain : layout.Plain)
    (huri : request.uri.Visible) (hinfo : Level.info.detail ≤ level.detail)
    (hlevel : e.level.detail ≤ level.detail) :
    layout.lines ((Filter.upTo level).apply [e]) = [layout.event e] := by
  have hspans : ∀ d ∈ [e], ∀ s, d.span = some s → s.level.detail ≤ level.detail := by
    intro d hd s hs
    rw [List.mem_singleton.1 hd, htold.span] at hs
    exact Option.some.inj hs ▸ hinfo
  rw [Filter.apply_upTo hspans, List.filter_cons_of_pos (by exact decide_eq_true hlevel),
    List.filter_nil]
  refine Layout.lines_eq_map fun d hd => ?_
  rw [List.mem_singleton.1 hd]
  exact htold.all_isUnbroken_event hplain huri

/-- What the line of an event is read as. -/
theorem Told.read?_remark {e : Event} (htold : Told request e) (hplain : layout.Plain)
    (huri : request.uri.Visible) :
    Record.read? (layout.event e) =
      some { time := layout.time, level := (remark layout e).level
             span := some (requestTexts request), target := (remark layout e).target
             message := (remark layout e).message } :=
  htold.read?_event hplain huri

/-! ## The answer to a panic -/

theorem status_panicAnswer : (panicAnswer watch request k).status = .internalServerError := by
  unfold panicAnswer
  split <;> rfl

theorem headers_panicAnswer : (panicAnswer watch request k).headers =
    [("content-type", "application/json"), ("content-length", "33")] := by
  have hlength : Decimal.text panicReply.body.utf8ByteSize = "33" := by decide
  have hheaders : (withLength (spanned request watch k panicReply)).headers =
      [("content-type", "application/json"), ("content-length", "33")] := by
    rw [← hlength]
    rfl
  unfold panicAnswer
  split
  next => exact hheaders
  next => exact hheaders

theorem body_panicAnswer : (panicAnswer watch request k).body =
    if request.method = .head then "" else "\x7b\"error\":\"Internal Server Error\"\x7d" := by
  have hbody : panicReply.body = "\x7b\"error\":\"Internal Server Error\"\x7d" := by decide
  unfold panicAnswer
  rw [← hbody]
  split
  next => rfl
  next => rfl

/-- Whatever a handler panics with, and at whichever poll, the request is answered with status 500
and the same answer, and the log goes on in the same way, beginning with the access entry.  Between
what was logged before and the access entry there is one line more; it is an error of the handlers,
and the text of the panic is read back from it.  The body of the answer is left out for `HEAD`, as
it is of other answers.

The answer, the access line and the lines after it are given before anything is said of the handler,
and the lines before the panic before anything is said of what it carries. -/
theorem panic_recovered {layout : Layout} (hplain : layout.Plain) {level : Level}
    (hlevel : Level.info.detail ≤ level.detail) {text : String} {uri : Uri}
    (hread : Uri.read? text = .ok uri) (method : Http.Method) (version : Http.Version)
    (watch : Stopwatch) (k : Nat) :
    let request : Http.Request := { method, uri, version }
    let record (level : Level) (target message : String) : Record :=
      { time := layout.time, level, span := some (requestTexts request), target, message }
    ∃ answer accessLine after,
      answer.status.code = 500 ∧
      ("content-type", "application/json") ∈ answer.headers ∧
      ("content-length", "33") ∈ answer.headers ∧
      answer.body = (if method = .head then "" else
        "\x7b\"error\":\"Internal Server Error\"\x7d") ∧
      Record.read? accessLine = some (record .info "telemetry_service::access"
        (escape (method.name ++ " " ++ uri.received ++ " → 500 (" ++ layout.millis (watch k) ++
          "ms)"))) ∧
      ∀ own, ∃ before, ∀ (r : Router) (payload : Payload),
        (r.dispatch request).handler.Panics k own payload →
          ∃ log panicLine quoted,
            (∀ n, Exchange.run (k + (n + 1)) (r.handle watch request) = (some answer, log)) ∧
            layout.lines ((Filter.upTo level).apply log) =
              before ++ [panicLine, accessLine] ++ after ∧
            All isUnbroken panicLine ∧
            Record.read? panicLine = some (record .error "telemetry_service::handlers"
              ("handler panicked panic=" ++ quoted)) ∧
            (∀ s, payload = .text s → Quoted.read? quoted = some s) ∧
            (payload = .other → Quoted.read? quoted = some "non-string panic payload") := by
  intro request record
  have huri : request.uri.Visible := Uri.visible_of_read? hread
  have hentry := told_finish huri .internalServerError (watch k)
  -- the access line is the one of any request that is answered with status 500
  have haccess : Record.read? (layout.event
      (((Access.Tracker.ofRequest method uri).finish .internalServerError (watch k)).within
        (requestSpan request))) =
      some (record .info "telemetry_service::access" (escape (method.name ++ " " ++ uri.received ++
        " → 500 (" ++ layout.millis (watch k) ++ "ms)"))) := by
    have hcode : (" → 500 (" : String) = " → " ++ Decimal.text 500 ++ " (" := by decide
    rw [hentry.read?_remark hplain huri, remark_within, remark_finish, hcode]
    simp only [String.append_assoc]
    rfl
  have hstatus : (panicAnswer watch request k).status.code = 500 := by
    rw [status_panicAnswer]
    rfl
  -- nothing of what is chosen here speaks of the handler or of its panic
  refine ⟨panicAnswer watch request k, _,
    layout.lines ((Filter.upTo level).apply (afterPanic watch request k)), hstatus,
    by simp [headers_panicAnswer], by simp [headers_panicAnswer], body_panicAnswer, haccess,
    fun own => ⟨layout.lines ((Filter.upTo level).apply
      ((startedEvent :: own).map (·.within (requestSpan request)))), ?_⟩⟩
  intro r payload hpanics
  have htold := told_payload payload request
  -- the line of the panic quotes what the panic carries
  have hpanic : Record.read? (layout.event (payload.event.within (requestSpan request))) =
      some (record .error "telemetry_service::handlers"
        ("handler panicked panic=" ++ Quoted.encode payload.detail)) := by
    rw [htold.read?_remark hplain huri, remark_within, remark_payload]
    rfl
  refine ⟨_, _, Quoted.encode payload.detail, run_of_panics hpanics watch, ?_,
    htold.all_isUnbroken_event hplain huri, hpanic, ?_, ?_⟩
  · -- the log is in four parts, and the two in the middle are one line each
    have herror : Level.error.detail ≤ level.detail :=
      (by decide : Level.error.detail ≤ Level.info.detail).trans hlevel
    rw [Filter.apply_append, Layout.lines_append, Filter.apply_append, Layout.lines_append,
      Filter.apply_append, Layout.lines_append, htold.lines_apply hplain huri hlevel herror,
      hentry.lines_apply hplain huri hlevel hlevel, List.append_assoc]
    rfl
  · rintro s rfl
    exact Quoted.read?_encode s
  · rintro rfl
    exact Quoted.read?_encode _

/-- A text that tries to end its quotes, its line and the colour of the log. -/
def hostileText : String := "\"\x7d\n\x1b[31mnow  INFO telemetry_service::access: \\\u0085\""

/-- A router whose only handler panics with this text at its second poll. -/
def hostileRouter : Router where
  routes :=
    [{ path := "/drill"
       get := fun _ =>
        { poll := fun k => ([], if k = 0 then .pending else .panicked (.text hostileText)) } }]

theorem panic_recovered_hostile :
    ∃ answer log before panicLine accessLine after quoted,
      Exchange.run 2 (hostileRouter.handle (fun _ => 3)
          { method := .get, uri := .path { path := "/drill", query := none } }) =
          (some answer, log) ∧
        answer.status.code = 500 ∧
        answer.body = "\x7b\"error\":\"Internal Server Error\"\x7d" ∧
        (Layout.inDecimal "now").lines ((Filter.upTo .info).apply log) =
          before ++ [panicLine, accessLine] ++ after ∧
        (Record.read? accessLine).map Record.message = some "GET /drill → 500 (3ms)" ∧
        (Record.read? panicLine).map Record.message = some ("handler panicked panic=" ++ quoted) ∧
        Quoted.read? quoted = some hostileText := by
  have hplain : (Layout.inDecimal "now").Plain := Layout.plain_inDecimal (by decide) (by decide)
  have hread : Uri.read? "/drill" = .ok (.path { path := "/drill", query := none }) := rfl
  have hpanics : (hostileRouter.dispatch
      { method := .get, uri := .path { path := "/drill", query := none } }).handler.Panics 1 []
        (.text hostileText) := by
    refine ⟨fun j hj => ?_, rfl, rfl⟩
    obtain rfl := Nat.lt_one_iff.1 hj
    rfl
  have hlevel : Level.info.detail ≤ Level.info.detail := le_rfl
  obtain ⟨answer, accessLine, after, hstatus, -, -, hbody, haccess, hpanic⟩ :=
    panic_recovered hplain hlevel hread .get .http11 (fun _ => 3) 1
  obtain ⟨before, hlogged⟩ := hpanic []
  obtain ⟨log, panicLine, quoted, hrun, hlines, -, hline, htext, -⟩ := hlogged _ _ hpanics
  refine ⟨answer, log, before, panicLine, accessLine, after, quoted, hrun 0, hstatus, hbody, hlines,
    ?_, ?_, htext _ rfl⟩
  · rw [haccess]
    decide +kernel
  · rw [hline]
    rfl

/-- A `HEAD` request whose handler panics is answered without a body. -/
theorem panic_body_left_out :
    let uri : Uri := .path { path := "/panic-str", query := none }
    ∃ answer log,
      Uri.read? "/panic-str" = .ok uri ∧
        ((Drill.router {}).dispatch { method := .head, uri }).handler.Panics 0 []
          (.text "reactor breach") ∧
        Exchange.run 1 ((Drill.router {}).handle (fun _ => 0) { method := .head, uri }) =
          (some answer, log) ∧
        answer.status.code = 500 ∧
        answer.body ≠ "\x7b\"error\":\"Internal Server Error\"\x7d" :=
  ⟨_, _, rfl, ⟨fun j hj => absurd hj (Nat.not_lt_zero j), rfl, rfl⟩, rfl, rfl, by decide⟩

end ShipTelemetry.Service
