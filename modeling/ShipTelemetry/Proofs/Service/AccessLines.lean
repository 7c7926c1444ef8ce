import Mathlib.Algebra.Order.BigOperators.Group.List
import Mathlib.Algebra.Order.Group.Nat
import Mathlib.Data.List.Infix
import ShipTelemetry.Proofs.Log.Search
import ShipTelemetry.Proofs.Service.RoundTrip

/-!
# What a capture takes for access entries

A capture picks out the lines in which the target of the access log is named.  Every access
entry is among them, in order.  But the target is looked for anywhere in a line, and what a
client sends stands in the lines of the handlers as well: an announcement is picked out, too,
if the name of the ship or the target of the request holds the text.  Nothing else is
(`accessLines_captured`), so a capture counts the access entries right exactly if no report is
announced in that way.

## Strategy

At level `info` a completed request leaves the announcement of its report, if one was accepted,
and its access entry (`writtenLog_info_eq`), one line each.  The target of the access log is one
word with an underscore and colons, so it is found in the line of an announcement only within a
text that came from the client (`infix_announcement_iff`).
-/

namespace ShipTelemetry.Service

open Log Text

variable {layout : Layout} {request : Http.Request} {watch : Stopwatch} {report : Report}

/-! ## Where the target of the access log is named -/

/-- The text that a capture looks for. -/
def soughtText : List Char := Access.target.toList

theorem blank_notMem_soughtText : ' ' ∉ soughtText := by decide

/-- There is an underscore in the text that is looked for. -/
theorem not_infix_of_no_underscore {cs : List Char} (h : '_' ∉ cs) : ¬ soughtText <:+: cs :=
  not_infix_of_notMem (by decide : '_' ∈ soughtText) h

/-- What an announcement says behind the name of the ship. -/
def announcedState (report : Report) : String :=
  "in position (" ++ report.x.display ++ "," ++ report.y.display ++ ") with fuel " ++
    report.fuel.display

theorem toList_announcement_eq (report : Report) :
    report.announcement.toList =
      "Detected ship".toList ++ ' ' ::
        (report.name.toList ++ ' ' :: (announcedState report).toList) := by
  have hfront : "Detected ship ".toList = "Detected ship".toList ++ [' '] := by decide
  have hposition : " in position (".toList = ' ' :: "in position (".toList := by decide
  unfold Report.announcement announcedState
  simp only [String.toList_append, hfront, hposition, List.append_assoc, List.cons_append,
    List.nil_append]

theorem underscore_notMem_announcedState (report : Report) :
    '_' ∉ (announcedState report).toList := by
  have hnumber : ∀ x : Binary64, All (· ≠ '_') x.display := fun x =>
    x.all_display.imp fun c hc => by
      have hne : c ≠ '_' := by
        rintro rfl
        exact absurd hc (by decide)
      simpa using hne
  have hopening : All (· ≠ '_') "in position (" := by decide
  have hcomma : All (· ≠ '_') "," := by decide
  have hfuel : All (· ≠ '_') ") with fuel " := by decide
  have hstate : All (· ≠ '_') (announcedState report) := by
    unfold announcedState
    simp only [all_append]
    exact ⟨⟨⟨⟨⟨hopening, hnumber _⟩, hcomma⟩, hnumber _⟩, hfuel⟩, hnumber _⟩
  exact fun h => absurd (hstate _ h) (by decide)

/-- The text that is looked for is found in an announcement only within the name. -/
theorem infix_announcement_iff (report : Report) :
    soughtText <:+: report.announcement.toList ↔ soughtText <:+: report.name.toList := by
  have hfirst : ¬ soughtText <:+: "Detected ship".toList :=
    not_infix_of_no_underscore (by decide)
  have hlast : ¬ soughtText <:+: (announcedState report).toList :=
    not_infix_of_no_underscore (underscore_notMem_announcedState report)
  rw [toList_announcement_eq, infix_append_stop_iff blank_notMem_soughtText,
    infix_append_stop_iff blank_notMem_soughtText, or_iff_right hfirst, or_iff_left hlast]

/-- It is found in the span of a request only within the target of the request. -/
theorem infix_span_iff (request : Http.Request) :
    (soughtText <:+: methodOpening ++ (requestTexts request).method.toList ∨
      soughtText <:+: uriOpening ++ (requestTexts request).uri.toList ∨
      soughtText <:+: versionOpening ++ (requestTexts request).version.toList ++ spanClosing) ↔
    soughtText <:+: request.uri.display.toList := by
  have hmethod : ¬ soughtText <:+: methodOpening ++ request.method.name.toList := by
    refine not_infix_of_notMem (by decide : ':' ∈ soughtText) fun h => ?_
    rcases List.mem_append.1 h with h | h
    · exact absurd h (by decide)
    · exact absurd (List.all_eq_true.1 request.method.valid.2 _ h) (by decide)
  have huri : soughtText <:+: uriOpening ++ request.uri.display.toList ↔
      soughtText <:+: request.uri.display.toList := by
    have hopening : uriOpening = "uri".toList ++ ['='] := by decide
    have hnone := not_infix_of_no_underscore (by decide : '_' ∉ "uri".toList)
    rw [hopening, List.append_assoc, List.singleton_append,
      infix_append_stop_iff (by decide : '=' ∉ soughtText), or_iff_right hnone]
  have hversion :
      ¬ soughtText <:+: versionOpening ++ request.version.display.toList ++ spanClosing := by
    refine not_infix_of_no_underscore ?_
    cases request.version <;> decide
  change soughtText <:+: methodOpening ++ request.method.name.toList ∨
    soughtText <:+: uriOpening ++ request.uri.display.toList ∨
    soughtText <:+: versionOpening ++ request.version.display.toList ++ spanClosing ↔ _
  rw [or_iff_right hmethod, or_iff_left hversion, huri]

/-- So it is found in the line of an announcement only within what the client sent. -/
theorem infix_detectedEvent_iff (hplain : layout.Plain)
    (htime : ¬ soughtText <:+: layout.time.toList) {parameters : List (String × String)}
    (hread : Report.ofParameters parameters = .ok report) (request : Http.Request) :
    soughtText <:+:
        (layout.event ((detectedEvent report).within (requestSpan request))).toList ↔
      soughtText <:+: request.uri.display.toList ∨ soughtText <:+: report.name.toList := by
  have hlabel : ¬ soughtText <:+: Level.info.label.toList :=
    not_infix_of_no_underscore (by decide)
  have htarget : ¬ soughtText <:+: handlerTarget.toList ++ [':'] := by
    rw [← occursIn_iff]
    decide
  rw [(told_detectedEvent hread request).event_eq_text hplain,
    Record.infix_text_iff blank_notMem_soughtText rfl]
  change soughtText <:+: layout.time.toList ∨ soughtText <:+: Level.info.label.toList ∨ _ ∨ _ ∨ _ ∨
    soughtText <:+: handlerTarget.toList ++ [':'] ∨
    soughtText <:+: (layout.tail _).toList ↔ _
  rw [tail_detectedEvent (Report.all_isOrdinary_name hread), infix_announcement_iff,
    or_iff_right htime, or_iff_right hlabel, or_iff_right htarget, ← infix_span_iff request,
    or_assoc, or_assoc]

theorem infix_entryEvent (hplain : layout.Plain) (huri : request.uri.Visible)
    (watch : Stopwatch) (status : Http.Status) :
    soughtText <:+: (layout.event (entryEvent watch request status.code)).toList := by
  have htext : layout.event (entryEvent watch request status.code) = _ :=
    (told_finish huri status (watch 0)).event_eq_text hplain
  rw [htext, Record.infix_text_iff blank_notMem_soughtText rfl]
  have htarget : soughtText <:+: Access.target.toList ++ [':'] :=
    (List.prefix_append soughtText [':']).isInfix
  exact .inr (.inr (.inr (.inr (.inr (.inl htarget)))))

/-! ## Captures -/

/-- A request that the service completes: how the log is laid out while it does, how the time
passes, and how often the request may be polled after the first time. -/
structure Visit where
  request : Http.Request
  layout : Layout
  watch : Stopwatch
  spare : Nat

namespace Visit

/-- What is logged until the answer has been read to its end. -/
def log (v : Visit) : List Event :=
  (Exchange.run (v.spare + 1) (router.handle v.watch v.request)).2

/-- The lines of the access entries that are written meanwhile. -/
def entryLines (v : Visit) : List String :=
  (v.log.filter (·.target = Access.target)).map v.layout.event

/-- The line that announces the report of the request, if the text that a capture looks for stands
in the target of the request or in the name of the ship. -/
def namesakeLines (v : Visit) : List String :=
  if asksForShip v.request then
    match Report.ofParameters (Query.pairs v.request.uri.query) with
    | .ok report =>
        if soughtText <:+: v.request.uri.display.toList ∨ soughtText <:+: report.name.toList then
          [v.layout.event ((detectedEvent report).within (requestSpan v.request))]
        else []
    | .error _ => []
  else []

/-- The target of the request has been accepted, and the lines are laid out plainly, with a time
that does not name the access log. -/
structure Proper (v : Visit) : Prop where
  plain : v.layout.Plain
  time : ¬ soughtText <:+: v.layout.time.toList
  accepted : ∃ text, Uri.read? text = .ok v.request.uri

variable {v : Visit}

theorem Proper.visible (hv : v.Proper) : v.request.uri.Visible :=
  let ⟨_, hread⟩ := hv.accepted
  Uri.visible_of_read? hread

theorem log_eq (v : Visit) : v.log = completedLog v.watch v.request := by
  rw [log, run_router]

/-- One access entry is written. -/
theorem entryLines_eq (v : Visit) :
    v.entryLines =
      [v.layout.event (entryEvent v.watch v.request (outcome v.request).2.status.code)] := by
  rw [entryLines, log_eq, filter_access_completedLog]
  rfl

end Visit

/-- The log that a capture keeps of requests that are completed one after the other. -/
def captured (visits : List Visit) : Capture :=
  visits.foldl (fun capture v => capture.write v.layout v.log) {}

/-- A capture adds the lines of a plain layout at level `info`. -/
theorem text_write (hplain : layout.Plain) (capture : Capture) (events : List Event) :
    (capture.write layout events).text =
      capture.text ++ layout.log ((Filter.upTo .info).apply events) := by
  obtain ⟨coloured, colouredSpans, time, millis, port⟩ := layout
  obtain rfl : coloured = false := hplain.coloured
  obtain rfl : colouredSpans = false := hplain.colouredSpans
  rfl

/-- What is written of a request is followed by what is written of the next ones. -/
theorem text_foldl_write {visits : List Visit} (hvisits : ∀ v ∈ visits, v.Proper)
    (capture : Capture) :
    (visits.foldl (fun capture v => capture.write v.layout v.log) capture).text =
      capture.text ++
        String.join (visits.map fun v => v.layout.log (writtenLog .info v.watch v.request)) := by
  induction visits generalizing capture with
  | nil => simp
  | cons v rest ih =>
    have hv := hvisits v List.mem_cons_self
    have hrest := ih fun w hw => hvisits w (List.mem_cons_of_mem v hw)
    have hevents := apply_upTo_completedLog v.watch (Nat.le_refl Level.info.detail) hv.visible
    rw [List.foldl_cons, hrest, text_write hv.plain, v.log_eq, hevents, List.map_cons,
      String.join_cons, String.append_assoc]

theorem lines_captured {visits : List Visit} (hvisits : ∀ v ∈ visits, v.Proper) :
    (captured visits).lines =
      visits.flatMap fun v => (writtenLog .info v.watch v.request).map v.layout.event := by
  rw [Capture.lines, captured, text_foldl_write hvisits]
  rw [String.empty_append]
  induction visits with
  | nil => rfl
  | cons v rest ih =>
    have hv := hvisits v List.mem_cons_self
    have hrest := ih fun w hw => hvisits w (List.mem_cons_of_mem v hw)
    have hlines : ∀ e ∈ writtenLog .info v.watch v.request, All isUnbroken (v.layout.event e) :=
      fun e he => (told_of_mem_writtenLog hv.visible he).all_isUnbroken_event hv.plain hv.visible
    rw [List.map_cons, String.join_cons, Layout.lines_log_append hlines, hrest, List.flatMap_cons]

/-- Of the lines of one request, the access entry is picked out, and before it the announcement if
what the client sent names the access log. -/
theorem Visit.Proper.filter_lines {v : Visit} (hv : v.Proper) :
    ((writtenLog .info v.watch v.request).map v.layout.event).filter
        (fun line => Capture.occursIn soughtText line.toList) =
      v.namesakeLines ++ v.entryLines := by
  have hentry := infix_entryEvent hv.plain hv.visible v.watch (outcome v.request).2.status
  have hannounced : ((announcements v.request).map v.layout.event).filter
      (fun line => Capture.occursIn soughtText line.toList) = v.namesakeLines := by
    unfold announcements namesakeLines
    split
    next =>
      cases hread : Report.ofParameters (Query.pairs v.request.uri.query) with
      | error rejection => rfl
      | ok report =>
        have hiff := infix_detectedEvent_iff hv.plain hv.time hread v.request
        dsimp only
        rw [List.map_singleton]
        split
        next hnamed =>
          exact List.filter_cons_of_pos (occursIn_iff.2 (hiff.2 hnamed))
        next hnamed =>
          exact List.filter_cons_of_neg fun h => hnamed (hiff.1 (occursIn_iff.1 h))
    next => rfl
  rw [writtenLog_info_eq, List.map_append, List.filter_append, hannounced, entryLines_eq,
    List.map_singleton]
  exact congrArg _ (List.filter_cons_of_pos (occursIn_iff.2 hentry))

/-- Nothing is added to any part of a list exactly if the whole list stays the same. -/
theorem flatMap_append_eq_iff {α β : Type} {l : List α} {f g : α → List β} :
    (l.flatMap fun a => f a ++ g a) = l.flatMap g ↔ ∀ a ∈ l, f a = [] := by
  constructor
  · intro h a ha
    have hlength := congrArg List.length h
    simp only [List.length_flatMap, List.length_append, List.sum_map_add] at hlength
    have hsum : (l.map fun a => (f a).length).sum = 0 := by omega
    exact List.length_eq_zero_iff.1 (List.sum_eq_zero_iff.1 hsum _ (List.mem_map_of_mem ha))
  · intro h
    exact List.flatMap_congr fun a ha => by rw [h a ha, List.nil_append]

theorem accessLines_eq {visits : List Visit} (hvisits : ∀ v ∈ visits, v.Proper) :
    (captured visits).accessLines Access.target =
      visits.flatMap fun v => v.namesakeLines ++ v.entryLines := by
  rw [Capture.accessLines, lines_captured hvisits, List.filter_flatMap]
  exact List.flatMap_congr fun v hv => (hvisits v hv).filter_lines

/-- The lines that a capture takes for access entries are those of the access entries, one for each
request, in order, and before them those of the announcements in which the client has named the
access log.  So it takes the right lines exactly if there is no such announcement. -/
theorem accessLines_captured {visits : List Visit} (hvisits : ∀ v ∈ visits, v.Proper) :
    (captured visits).accessLines Access.target =
        (visits.flatMap fun v => v.namesakeLines ++ v.entryLines) ∧
      (∀ v ∈ visits, ∃ answer,
        (Exchange.run (v.spare + 1) (router.handle v.watch v.request)).1 = some answer ∧
        v.entryLines = [v.layout.event (entryEvent v.watch v.request answer.status.code)]) ∧
      ((captured visits).accessLines Access.target = visits.flatMap Visit.entryLines ↔
        ∀ v ∈ visits, v.namesakeLines = []) := by
  refine ⟨accessLines_eq hvisits, ?_, ?_⟩
  · intro v hv
    refine ⟨completedAnswer v.watch v.request, by rw [run_router], ?_⟩
    rw [status_completedAnswer]
    exact v.entryLines_eq
  · rw [accessLines_eq hvisits]
    exact flatMap_append_eq_iff

/-- A visit at a fixed time, without delays. -/
def sampleVisit (path query : String) : Visit where
  request := { method := .get, uri := .path { path, query := some query } }
  layout := .inDecimal "2026-01-01T00:00:00Z"
  watch := fun _ => 0
  spare := 0

theorem proper_sampleVisit {path query : String}
    (hread : Uri.read? (path ++ "?" ++ query) = .ok (.path { path, query := some query })) :
    (sampleVisit path query).Proper where
  plain := Layout.plain_inDecimal (by decide) (by decide)
  time := not_infix_of_no_underscore (by decide : '_' ∉ "2026-01-01T00:00:00Z".toList)
  accepted := ⟨_, hread⟩

/-- The text that is looked for, in a target that no handler speaks of. -/
theorem accessLines_captured_elsewhere :
    let v := sampleVisit "/telemetry_service::access" "telemetry_service::access:"
    (captured [v, v]).accessLines Access.target = v.entryLines ++ v.entryLines ∧
      v.entryLines.length = 1 := by
  intro v
  have hread : Uri.read? ("/telemetry_service::access" ++ "?" ++ "telemetry_service::access:") =
      .ok v.request.uri := Uri.read?_append (by decide) (by decide) (by decide) (by decide)
  have hvisits : ∀ w ∈ [v, v], w.Proper := by
    intro w hw
    obtain rfl : w = v := by simpa using hw
    exact proper_sampleVisit hread
  have hnone : v.namesakeLines = [] := if_neg (by decide)
  obtain ⟨-, hentries, hexact⟩ := accessLines_captured hvisits
  obtain ⟨answer, -, hentry⟩ := hentries v List.mem_cons_self
  refine ⟨?_, by rw [hentry]; rfl⟩
  rw [hexact.2 (by simp [hnone])]
  simp

/-- The name of this ship is the target of the access log. -/
def namesakeQuery : String := "name=telemetry_service%3A%3Aaccess&x=0&y=0&fuel=0"

/-- The beginning of a line in the log of a request with this query. -/
def namesakeLine (rest : String) : String :=
  "2026-01-01T00:00:00Z  INFO request\x7bmethod=GET uri=/ship?name=telemetry_service%3A%3Aaccess" ++
    "&x=0&y=0&fuel=0 version=HTTP/1.1\x7d: " ++ rest

def namesakeReport : Report where
  name := "telemetry_service::access"
  x := ⟨false, .zero⟩
  y := ⟨false, .zero⟩
  fuel := ⟨false, .zero⟩

/-- One request, and two lines are taken for access entries. -/
theorem announcement_taken_for_entry :
    let v := sampleVisit "/ship" namesakeQuery
    v.Proper ∧
      (captured [v]).accessLines Access.target = [
        namesakeLine ("telemetry_service::handlers: Detected ship telemetry_service::access " ++
          "in position (0,0) with fuel 0"),
        namesakeLine ("telemetry_service::access: GET /ship?name=telemetry_service%3A%3Aaccess" ++
          "&x=0&y=0&fuel=0 → 200 (0ms)")] ∧
      v.entryLines = [
        namesakeLine ("telemetry_service::access: GET /ship?name=telemetry_service%3A%3Aaccess" ++
          "&x=0&y=0&fuel=0 → 200 (0ms)")] := by
  intro v
  have hproper : v.Proper :=
    proper_sampleVisit (Uri.read?_append (by decide) (by decide) (by decide) (by decide))
  have hasks : asksForShip v.request := ⟨by decide, .inl rfl⟩
  have hread : Report.ofParameters (Query.pairs v.request.uri.query) = .ok namesakeReport := by
    decide +kernel
  have hnamed : soughtText <:+: v.request.uri.display.toList ∨
      soughtText <:+: namesakeReport.name.toList := .inr (List.infix_refl _)
  have hnamesake : v.namesakeLines =
      [v.layout.event ((detectedEvent namesakeReport).within (requestSpan v.request))] := by
    rw [Visit.namesakeLines, if_pos hasks, hread]
    exact if_pos hnamed
  have hentry : v.entryLines = [v.layout.event (entryEvent v.watch v.request 200)] := by
    rw [v.entryLines_eq, outcome_of_accepted hasks hread]
    rfl
  have hdetectedLine : v.layout.event
      ((detectedEvent namesakeReport).within (requestSpan v.request)) =
        namesakeLine ("telemetry_service::handlers: Detected ship telemetry_service::access " ++
          "in position (0,0) with fuel 0") := by decide +kernel
  have hentryLine : v.layout.event (entryEvent v.watch v.request 200) =
      namesakeLine ("telemetry_service::access: GET /ship?name=telemetry_service%3A%3Aaccess" ++
        "&x=0&y=0&fuel=0 → 200 (0ms)") := by decide +kernel
  have hlines := accessLines_eq (List.forall_mem_singleton.2 hproper)
  rw [List.flatMap_singleton, hnamesake, hentry, hdetectedLine, hentryLine] at hlines
  exact ⟨hproper, hlines, hentry.trans (congrArg (fun line => [line]) hentryLine)⟩

end ShipTelemetry.Service
