import ShipTelemetry.Proofs.Service.Alone

/-!
# Requests do not interfere

Many requests are polled and dropped in any order, and write to one log.  Each of them comes to
the same answer and leaves the same lines as on its own, and the log is a merge of what they
leave.

## Strategy

Following a schedule is, seen from one exchange, doing to it what the schedule does to it: the
step of another exchange neither changes it nor adds to its part of the log
(`follow_eq_actAll`, an induction on the schedule).  What is done to one exchange comes down to
a number of polls and perhaps a drop, and the clock shows in nothing but durations (both in
`Proofs.Service.Alone`).  A log in which every event carries the number of its exchange is a
merge of its parts (`merges_partOf`), and stays one when its events are written as lines.
-/

namespace ShipTelemetry.Service

open Access Log

/-! ## Merges -/

/-- A list is a merge of other lists: it is made of their elements, each taken from the front of
one of them, until all are used up. -/
inductive Merges {α : Type} : (Nat → List α) → List α → Prop
  | nothing : Merges (fun _ => []) []
  | take {parts : Nat → List α} {rest : List α} (i : Nat) (a : α) (hrest : Merges parts rest) :
      Merges (fun j => if j = i then a :: parts j else parts j) (a :: rest)

namespace Schedule

variable {α : Type} {i : Nat} {f : Filter} {l : Layout}

/-- What one exchange has added to a common log. -/
def partOf (i : Nat) (log : List (Nat × α)) : List α :=
  (log.filter fun entry => entry.1 = i).map Prod.snd

theorem partOf_cons (i j : Nat) (a : α) (log : List (Nat × α)) :
    partOf i ((j, a) :: log) = if i = j then a :: partOf i log else partOf i log := by
  by_cases h : i = j
  · subst h
    simp [partOf]
  · simp [partOf, h, Ne.symm h]

theorem partOf_append (i : Nat) (before after : List (Nat × α)) :
    partOf i (before ++ after) = partOf i before ++ partOf i after := by
  simp [partOf]

theorem partOf_map_self (i : Nat) (events : List α) :
    partOf i (events.map fun e => (i, e)) = events := by
  induction events with
  | nil => rfl
  | cons e rest ih => rw [List.map_cons, partOf_cons, if_pos rfl, ih]

theorem partOf_map_of_ne {j : Nat} (h : i ≠ j) (events : List α) :
    partOf i (events.map fun e => (j, e)) = [] := by
  induction events with
  | nil => rfl
  | cons e rest ih => rw [List.map_cons, partOf_cons, if_neg h, ih]

theorem merges_partOf (log : List (Nat × α)) :
    Merges (fun i => partOf i log) (log.map Prod.snd) := by
  induction log with
  | nil => exact .nothing
  | cons entry rest ih =>
      obtain ⟨j, a⟩ := entry
      have hparts : (fun i => partOf i ((j, a) :: rest)) =
          fun i => if i = j then a :: partOf i rest else partOf i rest := by
        funext i
        exact partOf_cons i j a rest
      rw [hparts, List.map_cons]
      exact .take j a ih

/-- What stands in the part of one exchange in some order stands in the log in that order. -/
theorem sublist_of_partOf {chosen : List α} {log : List (Nat × α)}
    (h : chosen.Sublist (partOf i log)) : (chosen.map fun a => (i, a)).Sublist log := by
  have hpart : (partOf i log).map (fun a => (i, a)) = log.filter fun entry => entry.1 = i := by
    unfold partOf
    rw [List.map_map]
    refine (List.map_congr_left fun entry hentry => ?_).trans (List.map_id _)
    have hnumber : entry.1 = i := by simpa using (List.mem_filter.1 hentry).2
    exact hnumber ▸ rfl
  have hchosen := h.map fun a => (i, a)
  rw [hpart] at hchosen
  exact hchosen.trans List.filter_sublist

/-! ## One exchange in a schedule -/

@[simp] theorem update_self (xs : Exchanges) (i : Nat) (x : Exchange) : xs.update i x i = x := by
  simp [Exchanges.update]

theorem update_of_ne (xs : Exchanges) {i j : Nat} (h : i ≠ j) (x : Exchange) :
    xs.update j x i = xs i := by
  simp [Exchanges.update, h]

theorem follow_cons (xs : Exchanges) (j : Nat) (action : Action) (rest : Schedule) :
    follow xs ((j, action) :: rest) =
      ((follow (xs.update j ((xs j).act action).1) rest).1,
        ((xs j).act action).2.map (fun e => (j, e)) ++
          (follow (xs.update j ((xs j).act action).1) rest).2) := rfl

/-- Seen from one exchange, to follow a schedule is to do to it what the schedule does to it. -/
theorem follow_eq_actAll (i : Nat) (xs : Exchanges) (s : Schedule) :
    (follow xs s).1 i = ((xs i).actAll (actionsOf i s)).1 ∧
      partOf i (follow xs s).2 = ((xs i).actAll (actionsOf i s)).2 := by
  induction s generalizing xs with
  | nil => exact ⟨rfl, rfl⟩
  | cons move rest ih =>
      obtain ⟨j, action⟩ := move
      obtain ⟨hexchange, hpart⟩ := ih (xs.update j ((xs j).act action).1)
      rw [follow_cons, partOf_append]
      by_cases h : i = j
      · subst h
        have hactions : actionsOf i ((i, action) :: rest) = action :: actionsOf i rest := by
          simp [actionsOf]
        rw [update_self] at hexchange hpart
        rw [hactions, partOf_map_self, hpart]
        exact ⟨hexchange, rfl⟩
      · have hactions : actionsOf i ((j, action) :: rest) = actionsOf i rest := by
          simp [actionsOf, Ne.symm h]
        rw [update_of_ne xs h] at hexchange hpart
        rw [hactions, partOf_map_of_ne h, hpart]
        exact ⟨hexchange, List.nil_append _⟩

/-- How often a schedule polls an exchange before it drops it. -/
def pollsOf (i : Nat) (s : Schedule) : Nat := pollsBeforeDrop (actionsOf i s)

/-- A schedule drops an exchange. -/
def drops (i : Nat) (s : Schedule) : Bool := (actionsOf i s).contains .drop

theorem follow_eq_alone (i : Nat) (xs : Exchanges) (s : Schedule) :
    (follow xs s).1 i = ((xs i).alone (s.pollsOf i) (s.drops i)).1 ∧
      partOf i (follow xs s).2 = ((xs i).alone (s.pollsOf i) (s.drops i)).2 := by
  have h := follow_eq_actAll i xs s
  rwa [Exchange.actAll_eq_alone] at h

/-! ## The lines of a log -/

/-- The lines that are written of events. -/
def written (f : Filter) (l : Layout) (events : List Event) : List String :=
  l.lines (f.apply events)

theorem written_append (before after : List Event) :
    written f l (before ++ after) = written f l before ++ written f l after := by
  unfold written
  rw [f.apply_append, l.lines_append]

theorem written_hiding_eq {before after : List Event} (word : String)
    (h : before.map Event.untimed = after.map Event.untimed) :
    written f (l.hiding word) before = written f (l.hiding word) after := by
  unfold written
  rw [← lines_apply_untimed f l word before, h, lines_apply_untimed]

/-- The lines of a common log, each with the number of the exchange whose event it was written
of. -/
def linesOf (f : Filter) (l : Layout) (log : List (Nat × Event)) : List (Nat × String) :=
  log.flatMap fun entry => (written f l [entry.2]).map fun line => (entry.1, line)

theorem partOf_linesOf (i : Nat) (log : List (Nat × Event)) :
    partOf i (linesOf f l log) = written f l (partOf i log) := by
  induction log with
  | nil => rfl
  | cons entry rest ih =>
      obtain ⟨j, e⟩ := entry
      have hcons : linesOf f l ((j, e) :: rest) =
          (written f l [e]).map (fun line => (j, line)) ++ linesOf f l rest := rfl
      rw [hcons, partOf_append, ih, partOf_cons]
      by_cases h : i = j
      · subst h
        rw [partOf_map_self, if_pos rfl, ← written_append, List.singleton_append]
      · rw [partOf_map_of_ne h, if_neg h, List.nil_append]

theorem map_snd_linesOf (log : List (Nat × Event)) :
    (linesOf f l log).map Prod.snd = written f l (log.map Prod.snd) := by
  induction log with
  | nil => rfl
  | cons entry rest ih =>
      obtain ⟨j, e⟩ := entry
      have hcons : linesOf f l ((j, e) :: rest) =
          (written f l [e]).map (fun line => (j, line)) ++ linesOf f l rest := rfl
      rw [hcons, List.map_append, ih, List.map_map, Function.comp_def, List.map_id',
        ← written_append, List.map_cons, List.singleton_append]

/-- The lines of a log are a merge of the lines of its parts. -/
theorem merges_written (f : Filter) (l : Layout) (log : List (Nat × Event)) :
    Merges (fun i => written f l (partOf i log)) (written f l (log.map Prod.snd)) := by
  have h := merges_partOf (linesOf f l log)
  rw [map_snd_linesOf] at h
  simpa only [partOf_linesOf] using h

end Schedule

/-! ## No interference -/

/-- Requests to one router do not interfere, in whatever order they are polled and dropped.
Each comes to the answer that it comes to on its own with as many polls, and leaves the lines
that it leaves on its own, in the same order, where layouts hide durations; for on its own it
may run by another clock.  The lines of the whole log are a merge of those.  The access entries
among the events of a request, besides those of its handler, carry its own method and target
and the status of its own answer.  A report that is answered with 200 has its announcement
before its access entry, wherever these stand in the common log. -/
theorem follow_undisturbed (r : Router) (requests : Nat → Http.Request)
    (watch other : Nat → Stopwatch) (filter : Filter) (layout : Layout) (word : String)
    (s : Schedule) :
    let run := s.follow fun i => .begin (r.handle (watch i) (requests i))
    let answer? (i : Nat) := (run.1 i).response?
    let part (i : Nat) := Schedule.partOf i run.2
    let alone (i : Nat) := (Exchange.begin (r.handle (other i) (requests i))).alone
      (s.pollsOf i) (s.drops i)
    let written := Schedule.written filter (layout.hiding word)
    (∀ i, (answer? i).map Http.Response.untimed =
        (alone i).1.response?.map Http.Response.untimed) ∧
      (∀ i, written (part i) = written (alone i).2) ∧
      Merges (fun i => written (alone i).2) (written (run.2.map Prod.snd)) ∧
      (∀ i, ∃ millis, entriesIn (part i) =
        entriesIn ((Exchange.begin (r.dispatch (requests i)).handler).alone
            (s.pollsOf i) (s.drops i)).2 ++
          dueEntries (requests i) (answer? i) (s.drops i && s.pollsOf i ≠ 0) millis) ∧
      ∀ i parameters answer, (r.dispatch (requests i)).handler = ship (.ok parameters) →
        answer? i = some answer → answer.status.code = 200 →
        ∃ report, Report.ofParameters parameters = .ok report ∧
          let span := requestSpan (requests i)
          let entry := (Tracker.ofRequest (requests i).method (requests i).uri).finish .ok
            (watch i 0)
          part i = [startedEvent, detectedEvent report, entry,
              finishedEvent .ok (watch i 0)].map (·.within span) ∧
            [(i, (detectedEvent report).within span), (i, entry.within span)].Sublist run.2 := by
  intro run answer? part alone written
  -- each exchange has come as far as if nothing had been done to the others
  have hstep (i : Nat) : run.1 i = ((Exchange.begin (r.handle (watch i) (requests i))).alone
        (s.pollsOf i) (s.drops i)).1 ∧
      part i = ((Exchange.begin (r.handle (watch i) (requests i))).alone
        (s.pollsOf i) (s.drops i)).2 :=
    Schedule.follow_eq_alone i (fun i => .begin (r.handle (watch i) (requests i))) s
  have hanswer (i : Nat) : answer? i = ((Exchange.begin (r.handle (watch i) (requests i))).alone
      (s.pollsOf i) (s.drops i)).1.response? := congrArg Exchange.response? (hstep i).1
  -- by another clock it differs in the durations that it tells, which the layout hides
  have hclock (i : Nat) := alone_handle_untimed r (watch i) (other i) (requests i) (s.pollsOf i)
    (s.drops i)
  have hlines (i : Nat) : written (part i) = written (alone i).2 := by
    rw [(hstep i).2]
    exact Schedule.written_hiding_eq word (hclock i).2
  refine ⟨?_, hlines, ?_, ?_, ?_⟩
  · intro i
    rw [hanswer i]
    exact (hclock i).1
  · -- the whole log is a merge of its parts, and these have the lines just found
    have hmerge := Schedule.merges_written filter (layout.hiding word) run.2
    have hparts : (fun i => written (part i)) = fun i => written (alone i).2 := funext hlines
    exact hparts ▸ hmerge
  · -- what is due for a request depends on its own end only
    intro i
    rw [hanswer i, (hstep i).2]
    exact entriesIn_alone r (watch i) (requests i) (s.pollsOf i) (s.drops i)
  · intro i parameters answer hship hsome hcode
    rw [hanswer i] at hsome
    obtain ⟨report, hread, hevents⟩ := alone_ship hship hsome hcode
    rw [← (hstep i).2] at hevents
    -- the two stand in this order in the part of the request, and so in the whole log
    have horder : [(detectedEvent report).within (requestSpan (requests i)),
        ((Tracker.ofRequest (requests i).method (requests i).uri).finish .ok (watch i 0)).within
          (requestSpan (requests i))].Sublist (part i) := by
      rw [hevents]
      exact .cons _ (.cons_cons _ (.cons_cons _ (List.nil_sublist _)))
    exact ⟨report, hread, hevents, Schedule.sublist_of_partOf horder⟩

theorem Router.handler_dispatch_of_get {r : Router} {request : Http.Request} {route : Route}
    (hfound : r.routes.find? (fun route => route.path = request.uri.route) = some route)
    (hget : request.method = .get) : (r.dispatch request).handler = route.get request := by
  unfold Router.dispatch
  rw [hfound]
  simp [hget]

theorem shipRoute_get (request : Http.Request) :
    shipRoute.get request = ship (.ok (Query.pairs request.uri.query)) := rfl

/-- The routes of the service beside the drill routes. -/
def sampleRouter : Router := { routes := router.routes ++ (Drill.router {}).routes }

/-- A report, a request that is never answered, and one whose handler panics. -/
def sampleRequests : Nat → Http.Request
  | 0 => { method := .get
           uri := .path { path := "/ship", query := some "name=Argo&x=1&y=2&fuel=3" } }
  | 1 => { method := .get, uri := .path { path := "/stall", query := none } }
  | _ => { method := .get, uri := .path { path := "/panic-str", query := none } }

/-- The second request is dropped between the polls of the two others. -/
def sampleSchedule : Schedule := [(1, .poll), (0, .poll), (1, .drop), (2, .poll)]

/-- Every answer takes seven milliseconds. -/
def sampleWatch : Nat → Stopwatch := fun _ _ => 7

/-- The answers to the first requests. -/
def statusCodes (xs : Exchanges) (requests : Nat) : List (Option Nat) :=
  (List.range requests).map fun i => (xs i).response?.map (·.status.code)

theorem follow_undisturbed_sample :
    let run := sampleSchedule.follow fun i =>
      .begin (sampleRouter.handle (sampleWatch i) (sampleRequests i))
    statusCodes run.1 3 = [some 200, none, some 500] ∧
      ∃ report, report.name = "Argo" ∧
        [(0, (detectedEvent report).within (requestSpan (sampleRequests 0))),
          (0, ((Tracker.ofRequest (sampleRequests 0).method (sampleRequests 0).uri).finish .ok
            (sampleWatch 0 0)).within (requestSpan (sampleRequests 0)))].Sublist run.2 := by
  have hfound : sampleRouter.routes.find?
      (fun route => route.path = (sampleRequests 0).uri.route) = some shipRoute := by
    unfold sampleRouter router
    rw [List.singleton_append]
    exact List.find?_cons_of_pos rfl
  have hship := (Router.handler_dispatch_of_get hfound rfl).trans
    (shipRoute_get (sampleRequests 0))
  have hcodes : statusCodes (sampleSchedule.follow fun i =>
      .begin (sampleRouter.handle (sampleWatch i) (sampleRequests i))).1 3 =
        [some 200, none, some 500] := by decide +kernel
  have hname : (Report.ofParameters (Query.pairs (sampleRequests 0).uri.query)).toOption.map
      (·.name) = some "Argo" := by decide +kernel
  obtain ⟨-, -, -, -, hreports⟩ := follow_undisturbed sampleRouter sampleRequests sampleWatch
    sampleWatch (.upTo .info) (.mk false false "" Decimal.text Decimal.text) "" sampleSchedule
  -- from here on only the codes of the run matter, and it must not be evaluated
  generalize sampleSchedule.follow _ = run at hreports hcodes ⊢
  obtain ⟨answer, hanswer, hcode⟩ := Option.map_eq_some_iff.1 (List.cons.inj hcodes).1
  obtain ⟨report, hread, -, horder⟩ := hreports 0 _ answer hship hanswer hcode
  rw [hread] at hname
  exact ⟨hcodes, report, Option.some.inj hname, horder⟩

end ShipTelemetry.Service
