import ShipTelemetry.Proofs.Binary64.Display
import ShipTelemetry.Proofs.Log.Basic
import ShipTelemetry.Proofs.Log.Plain
import ShipTelemetry.Proofs.Report.Reading
import ShipTelemetry.Proofs.Service.Completed
import ShipTelemetry.Proofs.Uri.Characters

/-!
# The lines of a request

Client text reaches the log in three places: the target of the request stands in its span
and in its access entry as received, and the name of a ship stands in its announcement as
decoded.  A target is one word, because no accepted target holds a blank or an ASCII control
character; a name stays on its line, because a report with a control character in its name
is refused.

So every event of a request is `Told` in a way that is safe to write: its line is one line
(`Told.all_isUnbroken_event`), which is read as what the event says (`Told.read?_event`).
-/

namespace ShipTelemetry.Service

open Log Text

variable {layout : Layout} {request : Http.Request} {watch : Stopwatch} {level : Level}

/-! ## Reading lines of a service -/

/-- The line reads as one of this target. -/
def readsAs (target line : String) : Bool :=
  (Record.read? line).any fun r => r.target = target

/-- The line reads as the announcement of a ship. -/
def announcesShip (line : String) : Bool :=
  (Record.read? line).any fun r =>
    r.target = handlerTarget && "Detected ship ".toList.isPrefixOf r.message.toList

/-! ## The span of a request -/

/-- The texts in the span of a request. -/
def requestTexts (request : Http.Request) : SpanText :=
  { method := request.method.name
    uri := request.uri.display
    version := request.version.display }

theorem span_requestSpan (hplain : layout.Plain) (request : Http.Request) :
    layout.span (requestSpan request) = (requestTexts request).text := by
  have hbrace : ("request\x7bmethod=" : String) = "request" ++ "\x7b" ++ "method" ++ "=" := rfl
  have huri : (" uri=" : String) = " " ++ "uri" ++ "=" := rfl
  have hversion : (" version=" : String) = " " ++ "version" ++ "=" := rfl
  have hclosing : ("\x7d: " : String) = "\x7d" ++ ":" ++ " " := rfl
  unfold requestTexts SpanText.text
  rw [hbrace, huri, hversion, hclosing]
  simp only [Layout.span, requestSpan, Field.plain, Layout.field, Layout.paint, Layout.text,
    Layout.piece, hplain.coloured, hplain.colouredSpans, Bool.false_eq_true, if_false,
    List.map_cons, List.map_nil, String.intercalate_cons_cons, String.intercalate_singleton,
    String.join_cons, String.join_nil, String.append_assoc]
  simp only [String.empty_append]

theorem isVisible_of_isMethodCharacter (c : Char) (h : Http.isMethodCharacter c = true) :
    isVisible c = true := by
  simp only [Http.isMethodCharacter, Bool.or_eq_true, decide_eq_true_eq] at h
  rcases h with h | h
  · exact isVisible_of_isAlphanum h
  · exact List.all_eq_true.1 (by decide) c h

theorem isInWord_of_isVisible (c : Char) (h : isVisible c = true) : isInWord c = true :=
  isInWord_of_test (by decide) h

theorem allOf_requestTexts (huri : request.uri.Visible) :
    (requestTexts request).AllOf isVisible where
  method c hc := isVisible_of_isMethodCharacter c
    (List.all_eq_true.1 request.method.valid.2 c hc)
  uri := huri.display
  version := by
    cases hversion : request.version <;> simp only [requestTexts, hversion] <;> decide

theorem valid_requestTexts (huri : request.uri.Visible) : (requestTexts request).Valid :=
  have htexts := allOf_requestTexts huri
  { method := htexts.method.imp isInWord_of_isVisible
    uri := htexts.uri.imp isInWord_of_isVisible
    version := htexts.version.imp isInWord_of_isVisible }

/-! ## The events of a request -/

section

variable {p : Char → Bool} (hp : AdmitsPrintable p)

include hp

theorem eventAll_startedEvent : Layout.EventAll p startedEvent :=
  Layout.eventAll_text rfl (hp.literal (by decide)) fun _ hf => nomatch hf

theorem eventAll_endOfStreamEvent (millis : Nat) :
    Layout.EventAll p (endOfStreamEvent millis) := by
  refine Layout.eventAll_text rfl (hp.literal (by decide)) fun f hf => ?_
  obtain rfl := List.mem_singleton.1 hf
  exact Layout.fieldAll_millis (hp.literal (by decide)) (hp.literal (by decide)) millis

theorem eventAll_finishedEvent (status : Http.Status) (millis : Nat) :
    Layout.EventAll p (finishedEvent status millis) := by
  refine Layout.eventAll_text rfl (hp.literal (by decide)) (List.forall_mem_cons.2 ⟨?_, ?_⟩)
  · exact Layout.fieldAll_millis (hp.literal (by decide)) (hp.literal (by decide)) millis
  · intro f hf
    obtain rfl := List.mem_singleton.1 hf
    exact Layout.fieldAll_plain (hp.literal (by decide)) ((all_isPrintable_decimal _).imp hp)

theorem eventAll_rejectedEvent (rejection : Rejection) :
    Layout.EventAll p (rejectedEvent rejection) := by
  have hquoted : All isPrintable (Text.Quoted.encode rejection.field.key) := by
    cases rejection.field <;> decide +kernel
  have hmessage : All isPrintable rejection.message := by
    have hkey : All isPrintable rejection.field.key := by cases rejection.field <;> decide
    unfold Rejection.message
    cases rejection.fault <;> exact all_append.2 ⟨hkey, by decide⟩
  refine Layout.eventAll_text rfl (hp.literal (by decide)) (List.forall_mem_cons.2 ⟨?_, ?_⟩)
  · exact Layout.fieldAll_plain (hp.literal (by decide)) (hquoted.imp hp)
  · intro f hf
    obtain rfl := List.mem_singleton.1 hf
    exact Layout.fieldAll_plain (hp.literal (by decide)) (hmessage.imp hp)

theorem all_announcement {report : Report} (hname : All p report.name) :
    All p report.announcement := by
  have hnumber : ∀ x : Binary64, All p x.display := fun x =>
    x.all_display.imp fun c hc => hp c (isPrintable_of_isNumeric c hc)
  unfold Report.announcement
  simp only [all_append]
  exact ⟨⟨⟨⟨⟨⟨⟨hp.literal (by decide), hname⟩, hp.literal (by decide)⟩, hnumber _⟩,
    hp.literal (by decide)⟩, hnumber _⟩, hp.literal (by decide)⟩, hnumber _⟩

theorem eventAll_detectedEvent {report : Report} (hname : All p report.name) :
    Layout.EventAll p (detectedEvent report) :=
  Layout.eventAll_text rfl (all_announcement hp hname) fun _ hf => nomatch hf

end

theorem eventAll_finish {p : Char → Bool} (hp : AdmitsPrintable p)
    (hvisible : ∀ c, isVisible c = true → p c = true) (huri : request.uri.Visible)
    (status : Http.Status) (millis : Nat) :
    Layout.EventAll p
      ((Access.Tracker.ofRequest request.method request.uri).finish status millis) where
  message := by
    have hmethod : All p request.method.name := (allOf_requestTexts huri).method.imp hvisible
    have hpath : All p request.uri.received := huri.received.imp hvisible
    have hcode : All p (Decimal.text status.code) := (all_isPrintable_decimal _).imp hp
    have harrow : All p " → " := by
      have hwritten : (" → " : String) = " " ++ "→" ++ " " := rfl
      have hsign : All isVisible "→" := by decide
      rw [hwritten]
      exact all_append.2 ⟨all_append.2 ⟨hp.literal (by decide), hsign.imp hvisible⟩,
        hp.literal (by decide)⟩
    have hblank : All p " " := hp.literal (by decide)
    have hopening : All p " (" := hp.literal (by decide)
    have hunit : All p "ms)" := hp.literal (by decide)
    simp only [Access.Tracker.finish, Access.Tracker.entry, Access.Tracker.ofRequest,
      Access.Entry.event, Access.Entry.message, List.forall_mem_cons, List.mem_singleton,
      forall_eq, Layout.pieceAll_text, Layout.pieceAll_millis, all_append]
    exact ⟨⟨⟨⟨⟨⟨hmethod, hblank⟩, hpath⟩, harrow⟩, hcode⟩, hopening⟩, trivial, hunit⟩
  fields := fun _ hf => nomatch hf

/-! ## What is told of a request -/

/-- The event happened in the span of the request, comes from a named part of the service,
and stays on its line. -/
structure Told (request : Http.Request) (e : Event) : Prop where
  span : e.span = some (requestSpan request)
  target : All isTargetCharacter e.target
  texts : Layout.EventAll isUnbroken e

theorem told_within {e : Event} (hspan : e.span = none) (htarget : All isTargetCharacter e.target)
    (htexts : Layout.EventAll isUnbroken e) : Told request (e.within (requestSpan request)) where
  span := by simp [Event.within, hspan]
  target := htarget
  texts := ⟨htexts.message, htexts.fields⟩

theorem told_detectedEvent {parameters : List (String × String)} {report : Report}
    (hread : Report.ofParameters parameters = .ok report) (request : Http.Request) :
    Told request ((detectedEvent report).within (requestSpan request)) := by
  have htarget : All isTargetCharacter handlerTarget := by decide
  have hname := (Report.all_isOrdinary_name hread).imp isUnbroken_of_isOrdinary
  exact told_within rfl htarget (eventAll_detectedEvent admitsPrintable_isUnbroken hname)

theorem told_rejectedEvent (rejection : Rejection) (request : Http.Request) :
    Told request ((rejectedEvent rejection).within (requestSpan request)) :=
  told_within rfl (by decide : All isTargetCharacter handlerTarget)
    (eventAll_rejectedEvent admitsPrintable_isUnbroken rejection)

theorem told_finish (huri : request.uri.Visible) (status : Http.Status) (millis : Nat) :
    Told request
      (((Access.Tracker.ofRequest request.method request.uri).finish status millis).within
        (requestSpan request)) :=
  told_within rfl (by decide : All isTargetCharacter Access.target)
    (eventAll_finish admitsPrintable_isUnbroken isUnbroken_of_isVisible huri status millis)

theorem told_of_mem_outcome {e : Event} (he : e ∈ (outcome request).1) :
    Told request (e.within (requestSpan request)) := by
  rcases (mem_outcome he).2 with ⟨report, hread, rfl⟩ | ⟨rejection, rfl⟩
  · exact told_detectedEvent hread request
  · exact told_rejectedEvent rejection request

theorem told_of_mem_completedLog (huri : request.uri.Visible) {e : Event}
    (he : e ∈ completedLog watch request) : Told request e := by
  obtain ⟨own, rfl, hown | hframing⟩ := mem_completedLog he
  · exact told_of_mem_outcome hown
  cases hframing with
  | started => exact told_within rfl (by decide) (eventAll_startedEvent admitsPrintable_isUnbroken)
  | entry => exact told_finish huri _ _
  | finished =>
      exact told_within rfl (by decide : All isTargetCharacter "tower_http::trace::on_response")
        (eventAll_finishedEvent admitsPrintable_isUnbroken _ _)
  | endOfStream =>
      exact told_within rfl (by decide : All isTargetCharacter "tower_http::trace::on_eos")
        (eventAll_endOfStreamEvent admitsPrintable_isUnbroken _)

/-! ## Lines of a request -/

namespace Told

variable {e : Event}

/-- What the line of an event says. -/
theorem event_eq_text (htold : Told request e) (hplain : layout.Plain) :
    layout.event e = (layout.record e (some (requestTexts request))).text := by
  refine Layout.event_eq_text hplain ?_
  rw [htold.span]
  exact span_requestSpan hplain request

theorem valid_record (htold : Told request e) (hplain : layout.Plain)
    (huri : request.uri.Visible) : (layout.record e (some (requestTexts request))).Valid where
  time := hplain.time_word
  span _ hs := Option.some.inj hs ▸ valid_requestTexts huri
  target := htold.target

/-- The line of an event is read as what the event says. -/
theorem read?_event (htold : Told request e) (hplain : layout.Plain)
    (huri : request.uri.Visible) :
    Record.read? (layout.event e) = some (layout.record e (some (requestTexts request))) := by
  rw [htold.event_eq_text hplain]
  exact Record.read?_text (htold.valid_record hplain huri)

theorem all_isUnbroken_event (htold : Told request e) (hplain : layout.Plain)
    (huri : request.uri.Visible) : All isUnbroken (layout.event e) := by
  rw [htold.event_eq_text hplain]
  refine Layout.all_record hplain admitsPrintable_isUnbroken htold.texts htold.target ?_
  rintro s ⟨⟩
  have htexts := allOf_requestTexts huri
  exact ⟨htexts.method.imp isUnbroken_of_isVisible, htexts.uri.imp isUnbroken_of_isVisible,
    htexts.version.imp isUnbroken_of_isVisible⟩

theorem readsAs_event (htold : Told request e) (hplain : layout.Plain)
    (huri : request.uri.Visible) (target : String) :
    readsAs target (layout.event e) = decide (e.target = target) := by
  unfold readsAs
  rw [htold.read?_event hplain huri]
  rfl

theorem announcesShip_event (htold : Told request e) (hplain : layout.Plain)
    (huri : request.uri.Visible) :
    announcesShip (layout.event e) =
      (e.target = handlerTarget && "Detected ship ".toList.isPrefixOf (layout.tail e).toList) := by
  unfold announcesShip
  rw [htold.read?_event hplain huri]
  rfl

end Told

/-- The events of a request that are written at this level. -/
def writtenLog (level : Level) (watch : Stopwatch) (request : Http.Request) : List Event :=
  (completedLog watch request).filter fun e => e.level.detail ≤ level.detail

theorem filter_target_writtenLog (level : Level) (target : String) (watch : Stopwatch)
    (request : Http.Request) :
    (writtenLog level watch request).filter (·.target = target) =
      ((completedLog watch request).filter (·.target = target)).filter
        fun e => e.level.detail ≤ level.detail := by
  unfold writtenLog
  simp only [List.filter_filter, Bool.and_comm]

theorem apply_upTo_completedLog (watch : Stopwatch) (hlevel : Level.info.detail ≤ level.detail)
    (huri : request.uri.Visible) :
    (Filter.upTo level).apply (completedLog watch request) = writtenLog level watch request := by
  refine Filter.apply_upTo fun e he s hs => ?_
  rw [(told_of_mem_completedLog huri he).span] at hs
  cases hs
  exact hlevel

theorem told_of_mem_writtenLog (huri : request.uri.Visible) {e : Event}
    (he : e ∈ writtenLog level watch request) : Told request e :=
  told_of_mem_completedLog huri (List.mem_filter.1 he).1

/-- The events that are written are one line each. -/
theorem lines_writtenLog (level : Level) (watch : Stopwatch) (hplain : layout.Plain)
    (huri : request.uri.Visible) :
    layout.lines (writtenLog level watch request) =
      (writtenLog level watch request).map layout.event :=
  Layout.lines_eq_map fun _ he => (told_of_mem_writtenLog huri he).all_isUnbroken_event hplain huri

/-! ## What is written at level info -/

/-- The announcement of the report that a request asks for, if it is accepted. -/
def announcements (request : Http.Request) : List Event :=
  if asksForShip request then
    match Report.ofParameters (Query.pairs request.uri.query) with
    | .ok report => [(detectedEvent report).within (requestSpan request)]
    | .error _ => []
  else []

/-- The access entry of a completed request, as an event in its span. -/
def entryEvent (watch : Stopwatch) (request : Http.Request) (status : Nat) : Event :=
  (Access.Entry.event
    { method := request.method, path := request.uri.received, status, millis := watch 0 }).within
      (requestSpan request)

theorem announcements_of_accepted {report : Report} (hasks : asksForShip request)
    (hread : Report.ofParameters (Query.pairs request.uri.query) = .ok report) :
    announcements request = [(detectedEvent report).within (requestSpan request)] := by
  rw [announcements, if_pos hasks, hread]

theorem announcements_eq (request : Http.Request) :
    announcements request =
      ((outcome request).1.filter fun e => e.level.detail ≤ Level.info.detail).map
        (·.within (requestSpan request)) := by
  unfold announcements outcome
  split
  next =>
    unfold shipOutcome
    cases Report.ofParameters (Query.pairs request.uri.query) with
    | ok report => rfl
    | error rejection => rfl
  next => split <;> rfl

theorem writtenLog_info_eq (watch : Stopwatch) (request : Http.Request) :
    writtenLog .info watch request =
      announcements request ++ [entryEvent watch request (outcome request).2.status.code] := by
  have hclosing : (if omitsBody request then [] else [endOfStreamEvent (watch 0)]).filter
      (fun e => decide (e.level.detail ≤ Level.info.detail)) = [] := by
    cases omitsBody request <;> rfl
  have hconcluding : (concludingEvents request watch 0 (outcome request).2.status).filter
      (fun e => decide (e.level.detail ≤ Level.info.detail)) =
        [(Access.Tracker.ofRequest request.method request.uri).finish
          (outcome request).2.status (watch 0)] := by
    rw [concludingEvents, outcomeEvents_outcome]
    rfl
  have hstarted : ∀ rest : List Event,
      (startedEvent :: rest).filter (fun e => decide (e.level.detail ≤ Level.info.detail)) =
        rest.filter fun e => decide (e.level.detail ≤ Level.info.detail) :=
    fun _ => List.filter_cons_of_neg (by decide)
  have hwithin : ∀ events : List Event,
      (events.map (·.within (requestSpan request))).filter
          (fun e => decide (e.level.detail ≤ Level.info.detail)) =
        (events.filter fun e => decide (e.level.detail ≤ Level.info.detail)).map
          (·.within (requestSpan request)) := fun _ => List.filter_map
  rw [writtenLog, completedLog, hwithin, hstarted, List.filter_append,
    List.filter_append, hclosing, hconcluding, announcements_eq]
  simp
  rfl

end ShipTelemetry.Service
