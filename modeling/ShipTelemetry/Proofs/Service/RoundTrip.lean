import Mathlib.Algebra.Group.Nat.Defs
import ShipTelemetry.Proofs.Json.Grammar
import ShipTelemetry.Proofs.Report.Spelling
import ShipTelemetry.Proofs.Service.RequestLines

/-!
# A report goes through unchanged

A report that is spelled in a query, in any of the many ways to do so, is accepted; the
greeting that is read from the answer names the ship, and one line of the log announces the
report, both with the name as it was before it was spelled.

## Strategy

Each stage gives back what the one before it was given.  The spelling has only characters
that the grammar of targets allows, so the query is received as written; it is decoded to the
texts of the report, and these are read as the report.  The name then passes through the
writer of JSON, which a reader undoes, and through the escaper of the log, which leaves a text
without control characters alone (`escape_eq_self`).
-/

namespace ShipTelemetry.Service

open Log Query Text

variable {layout : Layout} {request : Http.Request} {watch : Stopwatch} {level : Level}
  {report : Report}

/-! ## The announcement of a report -/

theorem tail_detectedEvent (hname : All isOrdinary report.name) (span : Span) :
    layout.tail ((detectedEvent report).within span) = report.announcement := by
  have hordinary : All isOrdinary report.announcement :=
    all_announcement admitsPrintable_isOrdinary hname
  simp [Layout.tail, Event.within, detectedEvent, escape_eq_self hordinary]

theorem isPrefixOf_announcement (report : Report) :
    "Detected ship ".toList.isPrefixOf report.announcement.toList = true := by
  unfold Report.announcement
  rw [List.isPrefixOf_iff_prefix]
  simp only [String.toList_append, List.append_assoc]
  exact List.prefix_append _ _

/-- A report that is asked for and accepted is announced in one line. -/
theorem filter_announcesShip (hplain : layout.Plain)
    (hlevel : Level.info.detail ≤ level.detail) (huri : request.uri.Visible)
    (hasks : asksForShip request)
    (hread : Report.ofParameters (Query.pairs request.uri.query) = .ok report) :
    ((writtenLog level watch request).map layout.event).filter announcesShip =
      [layout.event ((detectedEvent report).within (requestSpan request))] := by
  have hannounces : (writtenLog level watch request).filter
      (fun e => announcesShip (layout.event e)) =
        ((writtenLog level watch request).filter (·.target = handlerTarget)).filter
          fun e => "Detected ship ".toList.isPrefixOf (layout.tail e).toList := by
    rw [List.filter_filter]
    refine List.filter_congr fun e he => ?_
    rw [(told_of_mem_writtenLog huri he).announcesShip_event hplain huri, Bool.and_comm]
  have hown : (outcome request).1 = [detectedEvent report] := by
    rw [outcome_of_accepted hasks hread]
  have hprefix : "Detected ship ".toList.isPrefixOf
      (layout.tail ((detectedEvent report).within (requestSpan request))).toList = true := by
    rw [tail_detectedEvent (Report.all_isOrdinary_name hread)]
    exact isPrefixOf_announcement report
  have hwritten : ((detectedEvent report).within (requestSpan request)).level.detail ≤
      level.detail := hlevel
  -- of the handlers' events there is one, and its level is let through
  rw [List.filter_map, Function.comp_def, hannounces, filter_target_writtenLog,
    filter_handler_completedLog, hown, List.map_singleton,
    List.filter_cons_of_pos (by exact decide_eq_true hwritten), List.filter_nil,
    List.filter_cons_of_pos (by exact hprefix), List.filter_nil, List.map_singleton]

/-- The line is read as the announcement. -/
theorem exists_announcement (hplain : layout.Plain) (hlevel : Level.info.detail ≤ level.detail)
    (huri : request.uri.Visible) (hasks : asksForShip request)
    (hread : Report.ofParameters (Query.pairs request.uri.query) = .ok report) :
    ∃ line record,
      (layout.lines ((Filter.upTo level).apply (completedLog watch request))).filter
          announcesShip = [line] ∧
        Record.read? line = some record ∧ record.message = report.announcement := by
  have hmember : (detectedEvent report).within (requestSpan request) ∈
      completedLog watch request := by
    refine (List.mem_filter (p := fun e => e.target = handlerTarget)).1 ?_ |>.1
    rw [filter_handler_completedLog, outcome_of_accepted hasks hread]
    exact List.mem_singleton_self _
  have htold := told_of_mem_completedLog huri hmember
  refine ⟨_, _, ?_, htold.read?_event hplain huri, ?_⟩
  · rw [apply_upTo_completedLog watch hlevel huri, lines_writtenLog level watch hplain huri]
    exact filter_announcesShip hplain hlevel huri hasks hread
  · exact tail_detectedEvent (Report.all_isOrdinary_name hread) _

/-! ## The round trip -/

/-- A report that is spelled in a query is accepted, greeted by its name, and announced in one
line with its name and its numbers. -/
theorem report_round_trip {layout : Layout} (hplain : layout.Plain) {level : Level}
    (hlevel : level = .info ∨ level = .debug) {texts : Field → String} {report : Report}
    {query : String} (hgives : Report.Gives texts report)
    (hspells : Report.SpellsReport texts query)
    (hsize : ("/ship?" ++ query).utf8ByteSize ≤ 65534) (version : Http.Version)
    (watch : Stopwatch) (n : Nat) :
    ∃ uri, Uri.read? ("/ship?" ++ query) = .ok uri ∧
      ∃ answer log, Exchange.run (n + 1) (router.handle watch { method := .get, uri, version }) =
          (some answer, log) ∧
        answer.status.code = 200 ∧
        Json.readObject? answer.body = some [("greeting", "Hello, " ++ report.name ++ "!")] ∧
        ∃ line record,
          (layout.lines ((Filter.upTo level).apply log)).filter announcesShip = [line] ∧
          Record.read? line = some record ∧
          record.message = "Detected ship " ++ report.name ++ " in position (" ++
            report.x.display ++ "," ++ report.y.display ++ ") with fuel " ++
            report.fuel.display := by
  have hslash : "/ship?" ++ query = "/ship" ++ "?" ++ query := by
    have hopening : ("/ship?" : String) = "/ship" ++ "?" := rfl
    rw [hopening]
  have hread : Uri.read? ("/ship?" ++ query) =
      .ok (.path { path := "/ship", query := some query }) := by
    have hcodes := Report.isQueryCode_of_spellsReport hspells
    rw [hslash] at hsize ⊢
    exact Uri.read?_append (by decide) (by decide) (List.all_eq_true.2 hcodes) hsize
  refine ⟨_, hread, ?_⟩
  -- from here on only the route, the method and the parameters of the request matter
  generalize hrequest : ({
    method := .get, uri := .path { path := "/ship", query := some query }, version } :
      Http.Request) = request
  have huri : request.uri.Visible := hrequest ▸ Uri.visible_of_read? hread
  have hasks : asksForShip request := by
    rw [← hrequest]
    exact ⟨by simp [Uri.route, Target.rooted], .inl rfl⟩
  have hreport : Report.ofParameters (Query.pairs request.uri.query) = .ok report :=
    hrequest ▸ Report.ofParameters_of_spellsReport hspells hgives
  have hsent : omitsBody request = false := by
    have hget : request.method ≠ .head := hrequest ▸ (by decide : Http.Method.get ≠ .head)
    simp [omitsBody, hget]
  have houtcome := outcome_of_accepted hasks hreport
  have hdetail : Level.info.detail ≤ level.detail := by
    rcases hlevel with rfl | rfl <;> decide
  refine ⟨_, _, run_router watch request n, ?_, ?_, ?_⟩
  · rw [status_completedAnswer, houtcome]
    rfl
  · rw [body_completedAnswer, hsent, houtcome]
    exact Json.readObject?_singleton "greeting" ("Hello, " ++ report.name ++ "!")
  · exact exists_announcement hplain hdetail huri hasks hreport

/-! ## A sample -/

/-- Texts with a blank, letters beyond ASCII, a zero with a sign, and an exponent. -/
def sampleTexts : Field → String
  | .name => "Äß b"
  | .x => "-0"
  | .y => ".5"
  | .fuel => "1e1"

/-- The report that these texts give. -/
def sampleReport : Report where
  name := "Äß b"
  x := ⟨false, .zero⟩
  y := ⟨false, 2 ^ 52, 1021, by decide⟩
  fuel := ⟨false, 5 * 2 ^ 50, 1025, by decide⟩

/-- Spellings of the texts, in which two characters are escaped. -/
def sampleSpelling : Field → List Char
  | .name => "%c3%84ß+b".toList
  | .x => "-0".toList
  | .y => "%2E5".toList
  | .fuel => "1e1".toList

/-- The spellings out of order and among other pieces. -/
def sampleQuery : String := "fuel=1e1&name=%c3%84ß+b&n%61me2=z&&x=-0&y=%2E5"

theorem gives_sampleReport : Report.Gives sampleTexts sampleReport where
  name := rfl
  ne_empty := by decide
  ordinary := by decide
  x := by decide +kernel
  y := by decide +kernel
  fuel := by decide +kernel
  not_below := by decide

theorem spellsText_sampleSpelling (field : Field) :
    SpellsText (sampleTexts field) (sampleSpelling field) := by
  cases field with
  | name =>
      have htext : (sampleTexts .name).toList = ['Ä', 'ß', ' ', 'b'] := by decide
      have hspelled : sampleSpelling .name =
          ['%', 'c', '3', '%', '8', '4'] ++ (['ß'] ++ (['+'] ++ (['b'] ++ []))) := by decide
      have hfirst : SpellsByte 0xc3 ['%', 'c', '3'] := .escape (by decide) (by decide)
      have hsecond : SpellsByte 0x84 ['%', '8', '4'] := .escape (by decide) (by decide)
      have hletter : SpellsChar 'Ä' ['%', 'c', '3', '%', '8', '4'] :=
        .escaped (.cons hfirst (.cons hsecond .nil))
      rw [SpellsText, htext, hspelled]
      exact .cons hletter (.cons (.literal (by decide)) (.cons .plus
        (.cons (.literal (by decide)) .nil)))
  | x => exact spellsText_of_isLiteral (by decide)
  | y =>
      have htext : (sampleTexts .y).toList = ['.', '5'] := by decide
      have hspelled : sampleSpelling .y = ['%', '2', 'E'] ++ (['5'] ++ []) := by decide
      have hdot : SpellsByte 0x2e ['%', '2', 'E'] := .escape (by decide) (by decide)
      have hpoint : SpellsChar '.' ['%', '2', 'E'] := .escaped (.cons hdot .nil)
      rw [SpellsText, htext, hspelled]
      exact .cons hpoint (.cons (.literal (by decide)) .nil)
  | fuel => exact spellsText_of_isLiteral (by decide)

theorem spellsReport_sampleQuery : Report.SpellsReport sampleTexts sampleQuery := by
  have hkey : ∀ field : Field, SpellsText field.key field.key.toList := by
    intro field
    apply spellsText_of_isLiteral
    cases field <;> decide
  have hown : ∀ field : Field, SpellsPair field.key (sampleTexts field)
      (field.key.toList ++ '=' :: sampleSpelling field) :=
    fun field => .pair (hkey field) (spellsText_sampleSpelling field)
  have hextras : ∀ piece ∈ ["n%61me2=z".toList, []], Report.IsExtra piece := by
    intro piece hpiece
    simp only [List.mem_cons, List.not_mem_nil, or_false] at hpiece
    rcases hpiece with rfl | rfl
    · have hpiece : "n%61me2=z".toList.all (fun c => isQueryCode c.toNat && c ≠ '&') = true := by
        decide
      refine ⟨fun c hc => by simpa using List.all_eq_true.1 hpiece c hc, fun field => ?_⟩
      cases field <;> decide +kernel
    · refine ⟨by simp [IsPiece], fun field => ?_⟩
      cases field <;> decide +kernel
  have hquery : ofPieces ["fuel=1e1".toList, "name=%c3%84ß+b".toList, "n%61me2=z".toList, [],
      "x=-0".toList, "y=%2E5".toList] = sampleQuery := by decide +kernel
  rw [← hquery]
  exact .query hown hextras (by decide +kernel)

theorem report_round_trip_sample :
    ∃ uri, Uri.read? ("/ship?" ++ sampleQuery) = .ok uri ∧
      ∃ answer log,
        Exchange.run 1 (router.handle (fun _ => 0) { method := .get, uri, version := .http11 }) =
          (some answer, log) ∧
        answer.status.code = 200 ∧
        Json.readObject? answer.body = some [("greeting", "Hello, Äß b!")] := by
  have hplain : (Layout.inDecimal "2026-01-01T00:00:00Z").Plain :=
    Layout.plain_inDecimal (by decide) (by decide)
  obtain ⟨uri, hread, answer, log, hrun, hstatus, hbody, -⟩ :=
    report_round_trip hplain (.inl rfl) gives_sampleReport spellsReport_sampleQuery (by decide)
      .http11 (fun _ => 0) 0
  exact ⟨uri, hread, answer, log, hrun, hstatus, hbody⟩

end ShipTelemetry.Service
