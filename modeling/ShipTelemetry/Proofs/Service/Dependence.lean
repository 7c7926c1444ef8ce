import Mathlib.Data.List.TakeWhile
import ShipTelemetry.Proofs.Report.Reading
import ShipTelemetry.Proofs.Service.Completed
import ShipTelemetry.Proofs.Uri.Front

/-!
# What an answer depends on

An answer depends on the method, the path as received, and the first values of the four keys of
a report.  Requests that agree in these are answered alike, whatever else stands in their
targets and however it is written.  `answered_alike` says so, and draws the conclusion for a
client that can only add to the end of a query: once the four keys are there, it has no
influence on the answer any more.
-/

namespace ShipTelemetry.Service

variable {first second : Http.Request}

/-! ## Equal answers -/

/-- Whenever the two requests are let run, both are answered, with the same status, the same
headers and the same body. -/
def AnsweredAlike (first second : Http.Request) : Prop :=
  ∀ (watch watch' : Stopwatch) (n n' : Nat), ∃ answer answer' log log',
    Exchange.run (n + 1) (router.handle watch first) = (some answer, log) ∧
      Exchange.run (n' + 1) (router.handle watch' second) = (some answer', log') ∧
      answer.status = answer'.status ∧ answer.headers = answer'.headers ∧
      answer.body = answer'.body

theorem outcome_congr (hmethod : first.method = second.method)
    (hroute : first.uri.route = second.uri.route)
    (hreport : Report.ofParameters (Query.pairs first.uri.query) =
      Report.ofParameters (Query.pairs second.uri.query)) :
    outcome first = outcome second := by
  have hasks : asksForShip first ↔ asksForShip second := by
    unfold asksForShip
    rw [hmethod, hroute]
  unfold outcome shipOutcome
  simp only [hasks, hroute, hreport]

theorem omitsBody_congr (hmethod : first.method = second.method)
    (hroute : first.uri.route = second.uri.route) : omitsBody first = omitsBody second := by
  unfold omitsBody
  rw [hmethod, hroute]

theorem headers_completedAnswer (watch : Stopwatch) (request : Http.Request) :
    (completedAnswer watch request).headers = (withLength (outcome request).2).headers := by
  unfold completedAnswer Dispatch.conclude
  cases omitsBody request <;> rfl

/-- The answer comes from the routes, but for the events that follow it. -/
theorem answeredAlike_of_outcome_eq (houtcome : outcome first = outcome second)
    (homits : omitsBody first = omitsBody second) : AnsweredAlike first second := by
  intro watch watch' n n'
  refine ⟨_, _, _, _, run_router watch first n, run_router watch' second n', ?_, ?_, ?_⟩
  · rw [status_completedAnswer, status_completedAnswer, houtcome]
  · rw [headers_completedAnswer, headers_completedAnswer, houtcome]
  · rw [body_completedAnswer, body_completedAnswer, houtcome, homits]

/-! ## Longer queries -/

/-- A fragment in the query hides what is added; otherwise it stands behind an ampersand. -/
theorem takeWhile_added (query added : List Char) :
    (query ++ '&' :: added).takeWhile (· ≠ '#') = query.takeWhile (· ≠ '#') ∨
      query.takeWhile (· ≠ '#') = query ∧
        (query ++ '&' :: added).takeWhile (· ≠ '#') =
          query ++ '&' :: added.takeWhile (· ≠ '#') := by
  by_cases hsign : '#' ∈ query
  · obtain ⟨shown, hidden, rfl, -⟩ := List.eq_append_cons_of_mem hsign
    refine .inl ?_
    rw [List.append_assoc, List.cons_append, takeWhile_append_stop (by decide),
      takeWhile_append_stop (by decide)]
  · have hshown : ∀ c ∈ query, decide (c ≠ '#') = true := fun c hc =>
      decide_eq_true (ne_of_mem_of_not_mem hc hsign)
    refine .inr ⟨List.takeWhile_eq_self_iff.2 hshown, ?_⟩
    rw [List.takeWhile_append_of_pos hshown, List.takeWhile_cons_of_pos (by decide)]

/-- Adding to a target that has the four keys changes neither its route nor their values. -/
theorem parts_of_added {front query added : String} {uri longer : Uri}
    (hfront : ∀ c ∈ front.toList, c ≠ '?' ∧ c ≠ '#')
    (huri : Uri.read? (front ++ "?" ++ query) = .ok uri)
    (hlonger : Uri.read? (front ++ "?" ++ query ++ "&" ++ added) = .ok longer)
    (hkeys : ∀ field : Field, (Report.first? (Query.pairs query) field.key).isSome) :
    longer.route = uri.route ∧ ∀ field : Field,
      Report.first? (Query.pairs longer.query) field.key =
        Report.first? (Query.pairs uri.query) field.key := by
  have hpath : ∀ c ∈ front.toList, Target.isInPath c = true := fun c hc => by
    simp [Target.isInPath, hfront c hc]
  have htext : front ++ "?" ++ query ++ "&" ++ added = front ++ "?" ++ (query ++ "&" ++ added) := by
    simp only [String.append_assoc]
  rw [htext] at hlonger
  obtain ⟨hroute, hquery⟩ := Uri.parts_of_read? hpath huri
  obtain ⟨hroute', hquery'⟩ := Uri.parts_of_read? hpath hlonger
  refine ⟨hroute'.trans hroute.symm, fun field => ?_⟩
  have hlist : (query ++ "&" ++ added).toList = query.toList ++ '&' :: added.toList := by simp
  rw [hlist] at hquery'
  rcases takeWhile_added query.toList added.toList with hsame | ⟨hwhole, hmore⟩
  · rw [hquery', hsame, hquery]
  · have hlonger : longer.query =
        query ++ "&" ++ String.ofList (added.toList.takeWhile (· ≠ '#')) := by
      rw [hquery', hmore]
      simp [← String.toList_inj]
    rw [hwhole, String.ofList_toList] at hquery
    rw [hlonger, hquery]
    exact Query.first?_pairs_append (hkeys field) _

theorem answeredAlike_of_first? (hmethod : first.method = second.method)
    (hroute : first.uri.route = second.uri.route)
    (hvalues : ∀ field : Field, Report.first? (Query.pairs first.uri.query) field.key =
      Report.first? (Query.pairs second.uri.query) field.key) : AnsweredAlike first second :=
  answeredAlike_of_outcome_eq (outcome_congr hmethod hroute (Report.ofParameters_congr hvalues))
    (omitsBody_congr hmethod hroute)

/-- Requests with the same method, the same path as received and the same first values of the
four keys are answered alike.  In particular nothing changes when something is added to a
query that has the four keys. -/
theorem answered_alike :
    (∀ first second : Http.Request, first.method = second.method →
      first.uri.route = second.uri.route →
      (∀ field : Field, Report.first? (Query.pairs first.uri.query) field.key =
        Report.first? (Query.pairs second.uri.query) field.key) →
      AnsweredAlike first second) ∧
    ∀ (front query added : String) (uri longer : Uri) (method : Http.Method)
      (version : Http.Version),
      (∀ c ∈ front.toList, c ≠ '?' ∧ c ≠ '#') →
      Uri.read? (front ++ "?" ++ query) = .ok uri →
      Uri.read? (front ++ "?" ++ query ++ "&" ++ added) = .ok longer →
      (∀ field : Field, (Report.first? (Query.pairs query) field.key).isSome) →
      AnsweredAlike { method, uri := longer, version } { method, uri, version } := by
  refine ⟨fun first second hmethod hroute hvalues =>
    answeredAlike_of_first? hmethod hroute hvalues, ?_⟩
  intro front query added uri longer method version hfront huri hlonger hkeys
  obtain ⟨hroute, hvalues⟩ := parts_of_added hfront huri hlonger hkeys
  exact answeredAlike_of_first? rfl hroute hvalues

/-- The keys of one target are escaped, out of order and repeated, and its name is empty.  The
other one gains a name. -/
theorem answered_alike_sample :
    AnsweredAlike
        { method := .get, uri := .path
            { path := "/ship", query := some "x=1&name=&y=2&fuel=3" } }
        { method := .get, uri := .absolute "http" "a"
            { path := "/ship", query := some "fuel=3&&n%61me=&y=2&x=1&x=2" } } ∧
      ∃ uri longer, Uri.read? "/ship?x=1&name=&y=2&fuel=3" = .ok uri ∧
        Uri.read? "/ship?x=1&name=&y=2&fuel=3&name=Ada" = .ok longer ∧
        AnsweredAlike { method := .get, uri := longer } { method := .get, uri } := by
  obtain ⟨halike, hadded⟩ := answered_alike
  refine ⟨halike _ _ rfl (by decide) fun field => ?_, ?_⟩
  · cases field <;> decide +kernel
  · obtain ⟨uri, huri⟩ : ∃ uri, Uri.read? ("/ship" ++ "?" ++ "x=1&name=&y=2&fuel=3") = .ok uri :=
      ⟨.path { path := "/ship", query := some "x=1&name=&y=2&fuel=3" }, by decide +kernel⟩
    obtain ⟨longer, hlonger⟩ : ∃ uri,
        Uri.read? ("/ship" ++ "?" ++ "x=1&name=&y=2&fuel=3" ++ "&" ++ "name=Ada") = .ok uri :=
      ⟨.path { path := "/ship", query := some "x=1&name=&y=2&fuel=3&name=Ada" }, by decide +kernel⟩
    have hfront : ∀ c ∈ "/ship".toList, c ≠ '?' ∧ c ≠ '#' := by simp
    refine ⟨uri, longer, huri, hlonger, ?_⟩
    refine hadded _ _ _ _ _ _ _ hfront huri hlonger fun field => ?_
    cases field <;> decide +kernel

end ShipTelemetry.Service
