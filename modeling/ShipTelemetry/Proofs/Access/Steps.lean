import ShipTelemetry.Proofs.Service.RequestLines

/-!
# One entry for every tracker

Whatever is done with a tracker, and in whatever order, one entry is written until it is gone:
at the first step that settles the request (`Step.settles?`), or when the tracker is let go of
if no step does.  Steps before that one log nothing and leave the tracker as it was; steps after
it find no tracker.

## Strategy

A step on a tracker without an entry either settles the request or changes nothing
(`step_of_settles`, `step_of_idle`), so a sequence of steps is cut at the first one that settles
it (`exists_first_settling`).  The part before it is passed by induction (`steps_idle_append`),
and so is the part behind it (`steps_none`).
-/

namespace ShipTelemetry.Access

open Log Text

variable {t : Tracker} {s : Step} {status millis : Nat}

/-! ## One step -/

/-- The status with which a step writes the entry of a request, if it does: a valid code, or 499
when the request is given up. -/
def Step.settles? : Step → Option Nat
  | .entry _ => none
  | .finish code => if 100 ≤ code ∧ code ≤ 999 then some code else none
  | .abandon => some 499

/-- What a step comes to while there is a tracker. -/
def Step.outcome (t : Tracker) (millis : Nat) : Step → Outcome
  | .entry status => .entry { method := t.method, path := t.path, status, millis }
  | .finish code => if 100 ≤ code ∧ code ≤ 999 then .finished else .invalidStatus
  | .abandon => .abandoned

theorem valid_of_settles (h : s.settles? = some status) : 100 ≤ status ∧ status ≤ 999 := by
  cases s with
  | entry code => cases h
  | finish code =>
    obtain ⟨hvalid, hcode⟩ := Option.ite_none_right_eq_some.1 h
    cases hcode
    exact hvalid
  | abandon =>
    cases h
    decide

/-- A step that settles the request writes its entry, once, and uses the tracker up. -/
theorem step_of_settles (ht : t.logged = false) (h : s.settles? = some status) :
    step millis (some t) s =
      (s.outcome t millis, none, [(t.entry status millis).event]) := by
  cases s with
  | entry code => cases h
  | finish code =>
    obtain ⟨hvalid, hcode⟩ := Option.ite_none_right_eq_some.1 h
    cases hcode
    simp [step, Step.outcome, Http.Status.ofCode?, hvalid, Tracker.finish]
  | abandon =>
    cases h
    rw [step, Tracker.drop_of_not_logged ht]
    rfl

/-- Any other step leaves the tracker as it was and logs nothing. -/
theorem step_of_idle (h : s.settles? = none) :
    step millis (some t) s = (s.outcome t millis, some t, []) := by
  cases s with
  | entry code => rfl
  | finish code =>
    have hinvalid : ¬ (100 ≤ code ∧ code ≤ 999) := fun hvalid => by
      rw [Step.settles?, if_pos hvalid] at h
      cases h
    simp [step, Step.outcome, Http.Status.ofCode?, hinvalid]
  | abandon => cases h

/-! ## Many steps -/

/-- What a step that settles nothing comes to, with what is logged at it. -/
def idle (t : Tracker) (move : Nat × Step) : Outcome × List Event :=
  (move.2.outcome t move.1, [])

/-- What any step comes to without a tracker, with what is logged at it. -/
def gone (_ : Nat × Step) : Outcome × List Event := (.gone, [])

theorem steps_none (moves : List (Nat × Step)) : steps none moves = (moves.map gone, none) := by
  induction moves with
  | nil => rfl
  | cons move rest ih =>
    have hgone : step move.1 none move.2 = (.gone, none, []) := rfl
    rw [steps_cons, hgone, ih]
    rfl

theorem steps_idle_append {before : List (Nat × Step)}
    (hbefore : ∀ move ∈ before, move.2.settles? = none) (rest : List (Nat × Step)) :
    steps (some t) (before ++ rest) =
      (before.map (idle t) ++ (steps (some t) rest).1, (steps (some t) rest).2) := by
  induction before with
  | nil => rfl
  | cons move more ih =>
    have hmove := hbefore move List.mem_cons_self
    have hmore := ih fun other hother => hbefore other (List.mem_cons_of_mem move hother)
    rw [List.cons_append, steps_cons, step_of_idle hmove, hmore]
    rfl

theorem steps_of_idle {moves : List (Nat × Step)}
    (h : ∀ move ∈ moves, move.2.settles? = none) :
    steps (some t) moves = (moves.map (idle t), some t) := by
  have happend := steps_idle_append (t := t) h []
  simpa [steps] using happend

theorem steps_of_settling {before after : List (Nat × Step)} (ht : t.logged = false)
    (hbefore : ∀ move ∈ before, move.2.settles? = none) (hs : s.settles? = some status) :
    steps (some t) (before ++ (millis, s) :: after) =
      (before.map (idle t) ++
        (s.outcome t millis, [(t.entry status millis).event]) :: after.map gone, none) := by
  rw [steps_idle_append hbefore, steps_cons, step_of_settles ht hs, steps_none]

theorem flatMap_idle (t : Tracker) (moves : List (Nat × Step)) :
    (moves.map (idle t)).flatMap Prod.snd = [] := by
  simp [idle, List.flatMap_map]

theorem flatMap_gone (moves : List (Nat × Step)) : (moves.map gone).flatMap Prod.snd = [] := by
  simp [gone, List.flatMap_map]

/-- No step settles the request, or there is a first one that does. -/
theorem exists_first_settling (moves : List (Nat × Step)) :
    (∀ move ∈ moves, move.2.settles? = none) ∨
      ∃ before millis s after status, moves = before ++ (millis, s) :: after ∧
        (∀ move ∈ before, move.2.settles? = none) ∧ s.settles? = some status := by
  induction moves with
  | nil => exact .inl nofun
  | cons move rest ih =>
    cases hmove : move.2.settles? with
    | some status => exact .inr ⟨[], move.1, move.2, rest, status, rfl, nofun, hmove⟩
    | none =>
      rcases ih with hrest | ⟨before, millis, s, after, status, rfl, hbefore, hs⟩
      · exact .inl (List.forall_mem_cons.2 ⟨hmove, hrest⟩)
      · exact .inr ⟨move :: before, millis, s, after, status, rfl,
          List.forall_mem_cons.2 ⟨hmove, hbefore⟩, hs⟩

/-! ## Entries as lines -/

/-- Outside of a span too, an entry is one line. -/
theorem lines_entry {layout : Layout} (hplain : layout.Plain) {uri : Uri} (huri : uri.Visible)
    (hstatus : 100 ≤ status ∧ status ≤ 999) (method : Http.Method) (millis : Nat) :
    layout.lines [((Tracker.ofRequest method uri).entry status millis).event] =
      [layout.event ((Tracker.ofRequest method uri).entry status millis).event] := by
  let request : Http.Request := { method, uri }
  let e : Event := (Tracker.ofRequest request.method request.uri).finish ⟨status, hstatus⟩ millis
  have htexts : Layout.EventAll isUnbroken e :=
    Service.eventAll_finish admitsPrintable_isUnbroken isUnbroken_of_isVisible huri _ _
  have htarget : All isTargetCharacter e.target := (by decide : All isTargetCharacter target)
  have htext : layout.event e = (layout.record e none).text := Layout.event_eq_text hplain rfl
  have hline : All isUnbroken (layout.event e) := by
    rw [htext]
    exact Layout.all_record hplain admitsPrintable_isUnbroken htexts htarget nofun
  exact Layout.lines_eq_map fun other hother => List.mem_singleton.1 hother ▸ hline

/-! ## Whole lives of a tracker -/

/-- However a tracker is used, one entry is written until it is gone, and that is one line of the
log.  The entry has the method of the request and its target as received.  If no step settles the
request, it is written when the tracker is let go of, with status 499; until then nothing is
logged, and all entries that were asked for have the same method and path.  Otherwise it is
written at the first step that settles the request: a code from 100 to 999 is the status, and
giving up counts as 499.  Nothing is logged before that step or after it, a code out of range is
refused and changes nothing, and the steps behind it find no tracker. -/
theorem one_entry_for_steps {layout : Layout} (hplain : layout.Plain) {text : String} {uri : Uri}
    (hread : Uri.read? text = .ok uri) (method : Http.Method) (moves : List (Nat × Step))
    (last : Nat) :
    let t := Tracker.ofRequest method uri
    let (results, left) := steps (some t) moves
    let events := results.flatMap Prod.snd ++ close last left
    ∃ status millis,
      let entry : Entry := { method, path := uri.received, status, millis }
      events = [entry.event] ∧ layout.lines events = [layout.event entry.event] ∧
        (((∀ move ∈ moves, move.2.settles? = none) ∧ status = 499 ∧ millis = last ∧
            results = moves.map (idle t) ∧ left = some t) ∨
          ∃ before s after, moves = before ++ (millis, s) :: after ∧
            (∀ move ∈ before, move.2.settles? = none) ∧ s.settles? = some status ∧
            results =
              before.map (idle t) ++ (s.outcome t millis, [entry.event]) :: after.map gone ∧
            left = none) := by
  intro t
  have hlines : ∀ {status}, 100 ≤ status ∧ status ≤ 999 → ∀ millis,
      layout.lines [(t.entry status millis).event] =
        [layout.event (t.entry status millis).event] :=
    fun hstatus => lines_entry hplain (Uri.visible_of_read? hread) hstatus method
  rcases exists_first_settling moves with
    hnone | ⟨before, millis, s, after, status, rfl, hbefore, hs⟩
  · -- nothing is logged before the tracker is let go of
    have hevents : (moves.map (idle t)).flatMap Prod.snd ++ close last (some t) =
        [(t.entry 499 last).event] := by
      rw [flatMap_idle]
      exact Tracker.drop_ofRequest method uri last
    rw [steps_of_idle hnone]
    dsimp only
    rw [hevents]
    exact ⟨499, last, rfl, hlines (by decide) last, .inl ⟨hnone, rfl, rfl, rfl, rfl⟩⟩
  · -- the first step that settles the tracker uses it up
    have hsteps : steps (some t) (before ++ (millis, s) :: after) = _ :=
      steps_of_settling rfl hbefore hs
    have hevents : (before.map (idle t) ++
        (s.outcome t millis, [(t.entry status millis).event]) :: after.map gone).flatMap Prod.snd ++
          close last none = [(t.entry status millis).event] := by
      rw [List.flatMap_append, List.flatMap_cons, flatMap_idle, flatMap_gone]
      rfl
    rw [hsteps]
    dsimp only
    rw [hevents]
    exact ⟨status, millis, rfl, hlines (valid_of_settles hs) millis,
      .inr ⟨before, s, after, rfl, hbefore, hs, rfl, rfl⟩⟩

/-- Two codes that are refused, then one that is not, and steps after the end. -/
def refusedThenFinished : List (Nat × Step) :=
  [(1, .entry 200), (2, .finish 99), (5, .finish 1000), (7, .finish 404), (8, .finish 200),
    (9, .abandon)]

theorem one_entry_for_steps_refused :
    let layout := Layout.inDecimal "2026-01-01T00:00:00Z"
    let uri : Uri := .path { path := "/ship", query := some "name=Star%20Dust" }
    let (results, left) := steps (some (Tracker.ofRequest .get uri)) refusedThenFinished
    let events := results.flatMap Prod.snd ++ close 10 left
    events = [Entry.event ⟨.get, "/ship?name=Star%20Dust", 404, 7⟩] ∧
      (layout.lines events).length = 1 := by
  have hplain : (Layout.inDecimal "2026-01-01T00:00:00Z").Plain :=
    Layout.plain_inDecimal (by decide) (by decide)
  have hread : Uri.read? "/ship?name=Star%20Dust" =
      .ok (.path { path := "/ship", query := some "name=Star%20Dust" }) := by rfl
  obtain ⟨status, millis, -, hlines, -⟩ :=
    one_entry_for_steps hplain hread .get refusedThenFinished 10
  exact ⟨rfl, congrArg List.length hlines⟩

end ShipTelemetry.Access
