import ShipTelemetry.Proofs.Service.RequestLines

/-!
# Log lines of a request cannot be forged

Every event of a request is one line, that line is the text of a valid record with the target
of the event, and no other valid record has the same text.  Whatever a client sends, what
reads as an access entry is the access entry, and what reads as the announcement of a ship
announces a ship.
-/

namespace ShipTelemetry.Service

open Log Text

variable {layout : Layout} {request : Http.Request} {watch : Stopwatch} {level : Level}

/-! ## Access entries and announcements -/

theorem length_filter_target_writtenLog (hlevel : Level.info.detail ≤ level.detail) :
    ((writtenLog level watch request).filter (·.target = Access.target)).length = 1 := by
  have hentry : ((Access.Tracker.ofRequest request.method request.uri).finish
      (outcome request).2.status (watch 0)).level = .info := rfl
  rw [filter_target_writtenLog, filter_access_completedLog]
  simp [Event.within, hentry, hlevel]

/-- The message of a rejection does not begin like an announcement. -/
theorem not_isPrefixOf_tail_rejectedEvent (rejection : Rejection) (span : Span) :
    "Detected ship ".toList.isPrefixOf
      (layout.tail ((rejectedEvent rejection).within span)).toList = false := by
  have hescaped : (escape "rejected telemetry report").toList =
      'r' :: "ejected telemetry report".toList := by decide
  have hann : "Detected ship ".toList = 'D' :: "etected ship ".toList := rfl
  unfold Layout.tail
  simp only [Event.within, rejectedEvent, Layout.text_text, List.map_cons,
    String.intercalate_cons_cons]
  rw [String.toList_append, String.toList_append, hescaped, hann]
  rfl

/-- Only an accepted report is announced. -/
theorem exists_report_of_announced {e : Event} (he : e ∈ completedLog watch request)
    (htarget : e.target = handlerTarget)
    (hmessage : "Detected ship ".toList.isPrefixOf (layout.tail e).toList = true) :
    asksForShip request ∧
      ∃ report, Report.ofParameters (Query.pairs request.uri.query) = .ok report := by
  obtain ⟨own, rfl, hown | hframing⟩ := mem_completedLog he
  · obtain ⟨hasks, ⟨report, hread, -⟩ | ⟨rejection, rfl⟩⟩ := mem_outcome hown
    · exact ⟨hasks, report, hread⟩
    · rw [not_isPrefixOf_tail_rejectedEvent] at hmessage
      cases hmessage
  · change own.target = handlerTarget at htarget
    exact absurd htarget hframing.target_ne

/-! ## No forged lines -/

/-- No request can forge a line of the log.  Whatever target was accepted and whatever the
method is, each event of the completed request is one line; this line has one valid reading,
which the reader finds, and its target is that of the event; one line reads as an access
entry; and a line that reads as the announcement of a ship is there only if the request asked
for a report and the parameters were accepted. -/
theorem lines_not_forged {layout : Layout} (hplain : layout.Plain) {level : Level}
    (hlevel : level = .info ∨ level = .debug) {text : String} {uri : Uri}
    (hread : Uri.read? text = .ok uri) (method : Http.Method) (version : Http.Version)
    (watch : Stopwatch) (n : Nat) :
    let request : Http.Request := { method, uri, version }
    ∃ answer log, Exchange.run (n + 1) (router.handle watch request) = (some answer, log) ∧
      let events := (Filter.upTo level).apply log
      let lines := layout.lines events
      lines = events.map layout.event ∧ (∀ line ∈ lines, '\n' ∉ line.toList) ∧
        (∀ e ∈ events, ∃ r : Record, r.Valid ∧ Record.read? (layout.event e) = some r ∧
          r.text = layout.event e ∧ r.target = e.target ∧
          ∀ other : Record, other.Valid → other.text = layout.event e → other = r) ∧
        (lines.filter (readsAs Access.target)).length = 1 ∧
        ∀ line ∈ lines, announcesShip line = true → asksForShip request ∧
          ∃ report, Report.ofParameters (Query.pairs uri.query) = .ok report := by
  intro request
  have huri : request.uri.Visible := Uri.visible_of_read? hread
  have hdetail : Level.info.detail ≤ level.detail := by
    rcases hlevel with rfl | rfl <;> decide
  -- what is written are the events of the completed request up to the level, spans and all
  have hevents := apply_upTo_completedLog watch hdetail huri
  -- each of them is told in a way that the reader of lines undoes
  have htold : ∀ e ∈ writtenLog level watch request, Told request e :=
    fun e he => told_of_mem_writtenLog huri he
  have hunbroken : ∀ e ∈ writtenLog level watch request, All isUnbroken (layout.event e) :=
    fun e he => (htold e he).all_isUnbroken_event hplain huri
  have hlines := lines_writtenLog level watch hplain huri
  refine ⟨_, _, run_router watch request n, ?_⟩
  dsimp only
  rw [hevents, hlines]
  refine ⟨rfl, ?_, ?_, ?_, ?_⟩
  · intro line hline hfeed
    obtain ⟨e, he, rfl⟩ := List.mem_map.1 hline
    exact absurd (hunbroken e he _ hfeed) (by decide)
  · -- a line is the text of a valid record, and no two valid records have the same text
    intro e he
    have htext := (htold e he).event_eq_text hplain
    have hvalid := (htold e he).valid_record hplain huri
    refine ⟨_, hvalid, (htold e he).read?_event hplain huri, htext.symm, rfl, ?_⟩
    exact fun other hother hsame => Record.eq_of_text_eq hother hvalid (hsame.trans htext)
  · -- a line reads as an access entry if its event is one, and there is one such event
    have hreads : ((writtenLog level watch request).filter
        fun e => readsAs Access.target (layout.event e)) =
          (writtenLog level watch request).filter (·.target = Access.target) :=
      List.filter_congr fun e he => (htold e he).readsAs_event hplain huri _
    rw [List.filter_map, List.length_map, Function.comp_def, hreads]
    exact length_filter_target_writtenLog hdetail
  · -- the reading of a line is known, so what it announces was an event
    intro line hline hannounces
    obtain ⟨e, he, rfl⟩ := List.mem_map.1 hline
    rw [(htold e he).announcesShip_event hplain huri, Bool.and_eq_true, decide_eq_true_eq]
      at hannounces
    have hmem : e ∈ completedLog watch request := (List.mem_filter.1 he).1
    obtain ⟨hasks, hreport⟩ := exists_report_of_announced hmem hannounces.1 hannounces.2
    exact ⟨hasks, hreport⟩

/-- A query whose name goes on, after a line feed, like a line of the access log. -/
def forgingQuery : String :=
  "name=a%0A2026-01-01T00:00:00Z%20%20INFO%20telemetry_service::access:%20GET&x=1&y=2&fuel=3"

theorem lines_not_forged_line_feed :
    let request : Http.Request :=
      { method := .get, uri := .path { path := "/ship", query := some forgingQuery } }
    ∃ answer log, Exchange.run 1 (router.handle (fun _ => 0) request) = (some answer, log) ∧
      let lines := (Layout.inDecimal "2026-01-01T00:00:00Z").lines
        ((Filter.upTo .debug).apply log)
      (∀ line ∈ lines, '\n' ∉ line.toList) ∧
        (lines.filter (readsAs Access.target)).length = 1 := by
  have hplain : (Layout.inDecimal "2026-01-01T00:00:00Z").Plain :=
    Layout.plain_inDecimal (by decide) (by decide)
  have hread : Uri.read? ("/ship" ++ "?" ++ forgingQuery) =
      .ok (.path { path := "/ship", query := some forgingQuery }) :=
    Uri.read?_append (by decide) (by decide) (by decide) (by decide)
  obtain ⟨answer, log, hrun, -, hfeeds, -, hone, -⟩ :=
    lines_not_forged hplain (.inr rfl) hread .get .http11 (fun _ => 0) 0
  exact ⟨answer, log, hrun, hfeeds, hone⟩

end ShipTelemetry.Service
