import ShipTelemetry.Proofs.Service.Account
import ShipTelemetry.Proofs.Service.Dependence
import ShipTelemetry.Proofs.Service.RoundTrip
import ShipTelemetry.Proofs.Service.Table

/-!
# `HEAD` mirrors `GET`

A `HEAD` request is answered as a `GET` request for the same URI, but for the body of the one
route, and it leaves the same log, but for the method and for the line about the end of a body
that was not sent.

## Strategy

The routes do not tell the two methods apart (`outcome_head`), so the answers differ in nothing
that is added after the routes but the body.  For the logs it is enough to compare the two accounts
(`account_head`): each line is made of its remark alone, and can be read, so the change from the
one log to the other can be said of the lines themselves (`mirrored`).
-/

namespace ShipTelemetry.Service

open Log

variable {layout : Layout} {level : Level} {uri : Uri} {version : Http.Version}

/-! ## Lines for lines -/

/-- A text that begins with `HEAD` where the given one begins with `GET`. -/
def headForGet (text : String) : String :=
  if "GET".toList.isPrefixOf text.toList then "HEAD" ++ String.ofList (text.toList.drop 3) else text

/-- A message for `HEAD`: the entries of the access log begin with the method. -/
def messageForHead (target message : String) : String :=
  if target = Access.target then headForGet message else message

/-- What a line says of a `HEAD` request where it says this of a `GET` request. -/
def recordForHead (r : Record) : Record :=
  { r with
    span := r.span.map fun s => { s with method := headForGet s.method }
    message := messageForHead r.target r.message }

/-- A line of a `HEAD` request in place of one of a `GET` request. -/
def lineForHead (line : String) : String :=
  (Record.read? line).elim line fun r => (recordForHead r).text

/-- The target of the line about the end of a body. -/
def endOfStreamTarget : String := "tower_http::trace::on_eos"

/-- The lines of a `HEAD` request in place of those of a `GET` request.  Where the body is left
out, nothing is said of its end. -/
def mirrored (uri : Uri) (lines : List String) : List String :=
  (lines.filter fun line => !(uri.route = "/ship" && readsAs endOfStreamTarget line)).map
    lineForHead

theorem headForGet_append (text : String) : headForGet ("GET" ++ text) = "HEAD" ++ text := by
  have htext : ("GET" ++ text).toList = 'G' :: 'E' :: 'T' :: text.toList := by simp
  have hprefix : "GET".toList.isPrefixOf ("GET" ++ text).toList = true := by
    rw [htext]
    rfl
  rw [headForGet, if_pos hprefix, htext]
  simp

/-! ## Remarks for remarks -/

/-- A remark about a `HEAD` request in place of one about a `GET` request. -/
def Remark.forHead (r : Remark) : Remark := { r with message := messageForHead r.target r.message }

/-- The remark is also made of a `HEAD` request. -/
def Remark.isMirrored (uri : Uri) (r : Remark) : Bool :=
  !(uri.route = "/ship" && r.target = endOfStreamTarget)

theorem Remark.read?_line (hplain : layout.Plain) {request : Http.Request}
    (huri : request.uri.Visible) {r : Remark} (htarget : Text.All isTargetCharacter r.target) :
    Record.read? (r.line layout request) =
      some { time := layout.time, level := r.level, span := some (requestTexts request)
             target := r.target, message := r.message } :=
  Record.read?_text
    { time := hplain.time_word
      span := fun _ hs => Option.some.inj hs ▸ valid_requestTexts huri
      target := htarget }

theorem lineForHead_line (hplain : layout.Plain) (huri : uri.Visible) {r : Remark}
    (htarget : Text.All isTargetCharacter r.target) :
    lineForHead (r.line layout { method := .get, uri, version }) =
      r.forHead.line layout { method := .head, uri, version } := by
  have hmethod : headForGet "GET" = "HEAD" := headForGet_append ""
  have hspan : { requestTexts { method := .get, uri, version } with
      method := headForGet (requestTexts { method := .get, uri, version }).method } =
        requestTexts { method := .head, uri, version } := by
    simp only [requestTexts, Http.Method.get, Http.Method.head, hmethod]
  rw [lineForHead, Remark.read?_line hplain huri htarget, Option.elim_some, recordForHead,
    Option.map_some, hspan]
  rfl

/-- Only the method is changed, not the path. -/
example : lineForHead ("now  INFO request\x7bmethod=GET uri=/GET version=HTTP/1.1\x7d: " ++
      "telemetry_service::access: GET /GET → 404 (1ms)") =
    "now  INFO request\x7bmethod=HEAD uri=/GET version=HTTP/1.1\x7d: " ++
      "telemetry_service::access: HEAD /GET → 404 (1ms)" := by
  decide +kernel

/-- What is true of the remarks is true of their lines. -/
theorem mirrored_map_line (hplain : layout.Plain) (huri : uri.Visible) {remarks : List Remark}
    (htargets : ∀ r ∈ remarks, Text.All isTargetCharacter r.target) :
    mirrored uri (remarks.map (Remark.line layout { method := .get, uri, version })) =
      ((remarks.filter (Remark.isMirrored uri)).map Remark.forHead).map
        (Remark.line layout { method := .head, uri, version }) := by
  have hkept : remarks.filter ((fun line => !(uri.route = "/ship" &&
      readsAs endOfStreamTarget line)) ∘ Remark.line layout { method := .get, uri, version }) =
        remarks.filter (Remark.isMirrored uri) := by
    refine List.filter_congr fun r hr => ?_
    rw [Function.comp_apply, readsAs, Remark.read?_line hplain huri (htargets r hr)]
    rfl
  rw [mirrored, List.filter_map, hkept, List.map_map, List.map_map]
  refine List.map_congr_left fun r hr => ?_
  rw [Function.comp_apply, Function.comp_apply]
  exact lineForHead_line hplain huri (htargets r (List.mem_filter.1 hr).1)

/-! ## The accounts -/

variable {own : List Remark}

theorem target_of_mem_account {request : Http.Request} {status millis : Nat}
    (hown : ∀ r ∈ own, r.target = handlerTarget) {r : Remark}
    (hr : r ∈ account layout request status millis own) :
    Text.All isTargetCharacter r.target := by
  simp only [account, List.mem_append, List.mem_cons, List.not_mem_nil, or_false] at hr
  rcases hr with ((rfl | hr) | rfl | rfl) | hr
  · exact (by decide : Text.All isTargetCharacter "tower_http::trace::on_request")
  · rw [hown r hr]
    decide
  · exact (by decide : Text.All isTargetCharacter "telemetry_service::access")
  · exact (by decide : Text.All isTargetCharacter "tower_http::trace::on_response")
  · split at hr
    next => cases hr
    next =>
      obtain rfl := List.mem_singleton.1 hr
      exact (by decide : Text.All isTargetCharacter "tower_http::trace::on_eos")

/-- Nothing changes where neither the access log nor the end of a body speaks. -/
theorem map_forHead_filter {remarks : List Remark}
    (h : ∀ r ∈ remarks, r.target ≠ endOfStreamTarget ∧ r.target ≠ Access.target) :
    (remarks.filter (Remark.isMirrored uri)).map Remark.forHead = remarks := by
  have hkept : remarks.filter (Remark.isMirrored uri) = remarks :=
    List.filter_eq_self.2 fun r hr => by simp [Remark.isMirrored, h r hr]
  have hsame : ∀ r ∈ remarks, r.forHead = id r := fun r hr => by
    simp [Remark.forHead, messageForHead, h r hr]
  rw [hkept, List.map_congr_left hsame, List.map_id]

theorem headForGet_escape (rest : String) :
    headForGet (escape (Http.Method.get.name ++ rest)) =
      escape (Http.Method.head.name ++ rest) := by
  have hget : escape Http.Method.get.name = "GET" := by decide
  have hhead : escape Http.Method.head.name = "HEAD" := by decide
  rw [escape_append, escape_append, hget, hhead, headForGet_append]

/-- What is said of a `HEAD` request. -/
theorem account_head (hown : ∀ r ∈ own, r.target = handlerTarget) (status millis : Nat) :
    account layout { method := .head, uri, version } status millis own =
      ((account layout { method := .get, uri, version } status millis own).filter
        (Remark.isMirrored uri)).map Remark.forHead := by
  have hget : ¬ Http.Method.get = .head := by decide
  have hhandlers : (own.filter (Remark.isMirrored uri)).map Remark.forHead = own :=
    map_forHead_filter fun r hr => hown r hr ▸ by decide
  unfold account
  simp only [List.filter_append, List.map_append, hhandlers]
  -- the handlers aside, the remarks are looked at one by one
  by_cases hroute : uri.route = "/ship" <;>
    simp [hroute, hget, Remark.isMirrored, endOfStreamTarget, Remark.forHead, messageForHead,
      Access.target, String.append_assoc, headForGet_escape]

/-! ## Answers -/

/-- The routes do not tell `HEAD` from `GET`. -/
theorem outcome_head (uri : Uri) (version : Http.Version) :
    outcome { method := .head, uri, version } = outcome { method := .get, uri, version } := by
  have hasks : asksForShip { method := .head, uri, version } ↔
      asksForShip { method := .get, uri, version } := by
    simp [asksForShip]
  unfold outcome
  simp only [hasks]

/-- An answer to a `HEAD` request mirrors the answer to the `GET` request for the same URI. -/
structure Mirrors (uri : Uri) (get head : Http.Response) : Prop where
  status : head.status = get.status
  headers : head.headers = get.headers
  length : ("content-length", Decimal.text get.body.utf8ByteSize) ∈ head.headers
  body : head.body = if uri.route = "/ship" then "" else get.body
  notFound : uri.route ≠ "/ship" → get.status.code = 404 ∧ get.body = notFoundBody

theorem mirrors_completedAnswer (uri : Uri) (version : Http.Version) (watch watch' : Stopwatch) :
    Mirrors uri (completedAnswer watch { method := .get, uri, version })
      (completedAnswer watch' { method := .head, uri, version }) := by
  have hsent : omitsBody { method := .get, uri, version } = false := by
    have hget : ¬ Http.Method.get = .head := by decide
    simp [omitsBody, hget]
  have hbody : (completedAnswer watch { method := .get, uri, version }).body =
      (outcome { method := .get, uri, version }).2.body := by
    rw [body_completedAnswer, hsent, if_neg Bool.false_ne_true]
  refine ⟨?_, ?_, ?_, ?_, fun hroute => ?_⟩
  · rw [status_completedAnswer, status_completedAnswer, outcome_head]
  · rw [headers_completedAnswer, headers_completedAnswer, outcome_head]
  · rw [headers_completedAnswer, outcome_head, hbody]
    exact List.mem_append_right _ (List.mem_singleton_self _)
  · rw [body_completedAnswer, outcome_head, hbody]
    simp [omitsBody]
  · obtain ⟨hstatus, -, hrow⟩ := outcome_eq_rowOf { method := .get, uri, version }
    rw [rowOf_of_not_ship hroute] at hstatus hrow
    exact ⟨by rw [status_completedAnswer, hstatus], by rw [hbody, hrow]⟩

/-! ## Logs -/

/-- The lines of a completed request are its account, as far as the level lets it through. -/
theorem lines_completedLog (hplain : layout.Plain) (hlevel : Level.info.detail ≤ level.detail)
    {request : Http.Request} (huri : request.uri.Visible) (watch : Stopwatch) :
    layout.lines ((Filter.upTo level).apply (completedLog watch request)) =
      ((account layout request (outcome request).2.status.code (watch 0)
        ((outcome request).1.map (remark layout))).filter
          (·.level.detail ≤ level.detail)).map (Remark.line layout request) := by
  rw [apply_upTo_completedLog watch hlevel huri, lines_writtenLog _ watch hplain huri,
    map_event_writtenLog _ watch hplain huri, ← map_remark_completedLog, List.filter_map]
  rfl

theorem account_congr {request : Http.Request} {millis millis' : Nat}
    (h : layout.millis millis = layout.millis millis') (status : Nat) :
    account layout request status millis own = account layout request status millis' own := by
  unfold account
  rw [h]

theorem lines_head (hplain : layout.Plain) (hlevel : Level.info.detail ≤ level.detail)
    (huri : uri.Visible) {watch watch' : Stopwatch}
    (hwatch : layout.millis (watch 0) = layout.millis (watch' 0)) :
    layout.lines ((Filter.upTo level).apply
        (completedLog watch' { method := .head, uri, version })) =
      mirrored uri (layout.lines ((Filter.upTo level).apply
        (completedLog watch { method := .get, uri, version }))) := by
  have hown : ∀ r ∈ (outcome { method := .get, uri, version }).1.map (remark layout),
      r.target = handlerTarget := by
    intro r hr
    obtain ⟨e, he, rfl⟩ := List.mem_map.1 hr
    exact target_of_mem_outcome he
  rw [lines_completedLog hplain hlevel huri, lines_completedLog hplain hlevel huri,
    mirrored_map_line hplain huri fun r hr => target_of_mem_account hown (List.mem_filter.1 hr).1,
    outcome_head, account_head hown, account_congr hwatch, List.filter_map, List.filter_filter,
    List.filter_filter]
  -- the change of a remark does not touch its level
  congr 2
  exact List.filter_congr fun r _ => Bool.and_comm ..

/-! ## Two requests for one URI -/

/-- Whatever the URI, `HEAD` mirrors `GET`: the answer has the same status and the same headers,
the length of the body included, and the body is left out on the one route and is the same
everywhere else.  The log is the same, line by line, but for the method in the span and in the
access entry, and for the line about the end of a body that was left out.  So a report is announced
once and in the same words.  The durations in the two logs are taken to look alike, as they always
do in a layout that hides them. -/
theorem head_mirrors_get {layout : Layout} (hplain : layout.Plain) {level : Level}
    (hlevel : Level.info.detail ≤ level.detail) {text : String} {uri : Uri}
    (hread : Uri.read? text = .ok uri) (version : Http.Version) (watch watch' : Stopwatch)
    (hwatch : layout.millis (watch 0) = layout.millis (watch' 0)) (n n' : Nat) :
    ∃ get head getLog headLog,
      Exchange.run (n + 1) (router.handle watch { method := .get, uri, version }) =
          (some get, getLog) ∧
        Exchange.run (n' + 1) (router.handle watch' { method := .head, uri, version }) =
          (some head, headLog) ∧
        Mirrors uri get head ∧
        layout.lines ((Filter.upTo level).apply headLog) =
          mirrored uri (layout.lines ((Filter.upTo level).apply getLog)) ∧
        ∀ report, uri.route = "/ship" → Report.ofParameters (Query.pairs uri.query) = .ok report →
          ∀ log ∈ [getLog, headLog], ∃ line record,
            (layout.lines ((Filter.upTo level).apply log)).filter announcesShip = [line] ∧
              Record.read? line = some record ∧ record.message = report.announcement := by
  have huri : uri.Visible := Uri.visible_of_read? hread
  refine ⟨_, _, _, _, run_router watch _ n, run_router watch' _ n',
    mirrors_completedAnswer uri version watch watch', lines_head hplain hlevel huri hwatch, ?_⟩
  intro report hroute hreport log hlog
  have hasks : ∀ method : Http.Method, method = .get ∨ method = .head →
      asksForShip { method, uri, version } := fun method hmethod => ⟨hroute, hmethod⟩
  simp only [List.mem_cons, List.not_mem_nil, or_false] at hlog
  rcases hlog with rfl | rfl
  · exact exists_announcement hplain hlevel huri (hasks .get (.inl rfl)) hreport
  · exact exists_announcement hplain hlevel huri (hasks .head (.inr rfl)) hreport

/-- The target of a report whose name has more bytes than letters. -/
def sampleUri : Uri := .path { path := "/ship", query := some sampleQuery }

theorem head_mirrors_get_sample :
    ∃ get head getLog headLog,
      Exchange.run 1 (router.handle (fun _ => 7) { method := .get, uri := sampleUri }) =
          (some get, getLog) ∧
        Exchange.run 2 (router.handle (fun _ => 7) { method := .head, uri := sampleUri }) =
          (some head, headLog) ∧
        get.body = "\x7b\"greeting\":\"Hello, Äß b!\"\x7d" ∧ head.body = "" ∧
        ("content-length", "29") ∈ head.headers ∧
        ∃ line record,
          ((Layout.inDecimal "now").lines ((Filter.upTo .info).apply headLog)).filter
              announcesShip = [line] ∧
            Record.read? line = some record ∧ record.message = sampleReport.announcement := by
  have hplain : (Layout.inDecimal "now").Plain := Layout.plain_inDecimal (by decide) (by decide)
  have hread : Uri.read? ("/ship" ++ "?" ++ sampleQuery) = .ok sampleUri :=
    Uri.read?_append (by decide) (by decide) (by decide) (by decide)
  have hlevel : Level.info.detail ≤ Level.info.detail := le_rfl
  have hroute : sampleUri.route = "/ship" := rfl
  have hreport : Report.ofParameters (Query.pairs sampleUri.query) = .ok sampleReport :=
    Report.ofParameters_of_spellsReport spellsReport_sampleQuery gives_sampleReport
  have hasks : asksForShip { method := .get, uri := sampleUri } := ⟨hroute, .inl rfl⟩
  obtain ⟨get, head, getLog, headLog, hget, hhead, hmirrors, -, hannounced⟩ :=
    head_mirrors_get hplain hlevel hread .http11 (fun _ => 7) (fun _ => 7) rfl 0 1
  have hbody : get.body = "\x7b\"greeting\":\"Hello, Äß b!\"\x7d" := by
    obtain ⟨hanswer, -⟩ := Prod.mk.inj (hget.symm.trans (run_router _ _ 0))
    rw [Option.some.inj hanswer, body_completedAnswer, outcome_of_accepted hasks hreport]
    decide +kernel
  refine ⟨get, head, getLog, headLog, hget, hhead, hbody, ?_, ?_, ?_⟩
  · exact hmirrors.body.trans (if_pos hroute)
  · have hlength := hmirrors.length
    rwa [hbody] at hlength
  · exact hannounced sampleReport hroute hreport headLog (by simp)

end ShipTelemetry.Service
