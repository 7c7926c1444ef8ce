import ShipTelemetry.Proofs.Access.OneEntry
import ShipTelemetry.Proofs.Log.Durations
import ShipTelemetry.Proofs.Service.Completed

/-!
# A request on its own

What is done to one exchange in the course of a schedule is a list of polls and drops.  All
that matters of it is how often the exchange was polled before it was first dropped, and
whether it was dropped at all (`actAll_eq_alone`): an exchange that is over does nothing more.

An exchange that runs by another clock takes the same steps, durations aside.  `untimed` is
the exchange with all durations set to zero.  It commutes with everything that is done to an
exchange (`alone_untimed`), and the handler that the layers and the router make of a request is
the same for all clocks once it is untimed (`untimed_handle`).
-/

namespace ShipTelemetry

open Log

/-! ## Durations aside -/

/-- An answer with all durations set to zero. -/
def Http.Response.untimed (r : Http.Response) : Http.Response :=
  { r with closing := r.closing.map Event.untimed }

namespace Service

def Progress.untimed : Progress → Progress
  | .pending => .pending
  | .answered response => .answered response.untimed
  | .panicked payload => .panicked payload

/-- A handler that logs no durations. -/
def Handler.untimed (h : Handler) : Handler where
  poll k := ((h.poll k).1.map Event.untimed, (h.poll k).2.untimed)
  cancel k := (h.cancel k).map Event.untimed

def Stage.untimed : Stage → Stage
  | .waiting polls => .waiting polls
  | .answered response => .answered response.untimed
  | .panicked payload => .panicked payload
  | .dropped => .dropped

/-- An exchange that logs no durations. -/
def Exchange.untimed (x : Exchange) : Exchange :=
  { handler := x.handler.untimed, stage := x.stage.untimed }

namespace Exchange

variable {x : Exchange}

@[simp] theorem response?_untimed (x : Exchange) :
    x.untimed.response? = x.response?.map Http.Response.untimed := by
  rcases x with ⟨handler, stage⟩
  cases stage <;> rfl

theorem poll_untimed (x : Exchange) :
    x.untimed.poll = (x.poll.1.untimed, x.poll.2.map Event.untimed) := by
  rcases x with ⟨handler, stage⟩
  cases stage with
  | waiting k =>
      rcases hpoll : handler.poll k with ⟨events, progress⟩
      cases progress <;>
        simp [poll, untimed, Stage.untimed, Handler.untimed, Progress.untimed, hpoll]
  | answered response => rfl
  | panicked payload => rfl
  | dropped => rfl

theorem drop_untimed (x : Exchange) :
    x.untimed.drop = (x.drop.1.untimed, x.drop.2.map Event.untimed) := by
  rcases x with ⟨handler, stage⟩
  cases stage <;> rfl

theorem pollUpTo_untimed (n : Nat) (x : Exchange) :
    pollUpTo n x.untimed = ((pollUpTo n x).1.untimed, (pollUpTo n x).2.map Event.untimed) := by
  induction n generalizing x with
  | zero => rfl
  | succ n ih => simp [pollUpTo, poll_untimed, ih]

end Exchange

/-! ## The clock of the layers -/

section Clock

variable {request : Http.Request} {watch other : Stopwatch}

theorem map_untimed_concludingEvents (request : Http.Request) (watch other : Stopwatch) (k : Nat)
    (status : Http.Status) :
    (concludingEvents request watch k status).map Event.untimed =
      (concludingEvents request other k status).map Event.untimed := by
  unfold concludingEvents outcomeEvents
  split
  next => rfl
  next => rfl

theorem untimed_conclude_spanned (found : Dispatch) (request : Http.Request)
    (watch other : Stopwatch) (k : Nat) (response : Http.Response) :
    (found.conclude (spanned request watch k response)).untimed =
      (found.conclude (spanned request other k response)).untimed := by
  unfold Dispatch.conclude
  split
  next => rfl
  next => rfl

/-- Up to durations the clock makes no difference to the handler of a request. -/
theorem untimed_handle (r : Router) (watch other : Stopwatch) (request : Http.Request) :
    (r.handle watch request).untimed = (r.handle other request).untimed := by
  have hpolls : (r.handle watch request).untimed.poll = (r.handle other request).untimed.poll := by
    funext k
    have hconcluding := map_untimed_concludingEvents request watch other k
    have hanswer := untimed_conclude_spanned (r.dispatch request) request watch other k
    rcases hpoll : (r.dispatch request).handler.poll k with ⟨events, progress⟩
    cases progress with
    | pending =>
        simp only [Handler.untimed, Router.handle_poll_of_pending hpoll]
    | answered response =>
        simp only [Handler.untimed, Router.handle_poll_of_answered hpoll, Progress.untimed, hanswer,
          map_untimed_map_within, List.map_append, hconcluding]
    | panicked payload =>
        simp only [Handler.untimed, Router.handle_poll_of_panicked hpoll, Progress.untimed, hanswer,
          map_untimed_map_within, List.map_append, hconcluding]
  have hcancels : (r.handle watch request).untimed.cancel =
      (r.handle other request).untimed.cancel := by
    funext k
    simp only [Handler.untimed, Router.handle_cancel, List.map_append]
    congr 1
    split
    next => rfl
    next => rfl
  calc (r.handle watch request).untimed
      = ⟨(r.handle watch request).untimed.poll, (r.handle watch request).untimed.cancel⟩ := rfl
    _ = ⟨(r.handle other request).untimed.poll, (r.handle other request).untimed.cancel⟩ := by
        rw [hpolls, hcancels]

end Clock

/-! ## Polled, and dropped or not -/

/-- How often an exchange is polled before it is dropped. -/
def pollsBeforeDrop : List Action → Nat
  | .poll :: rest => pollsBeforeDrop rest + 1
  | _ => 0

namespace Exchange

/-- A request on its own: polled up to so many times, and then dropped or not. -/
def alone (polls : Nat) (dropped : Bool) (x : Exchange) : Exchange × List Event :=
  let (y, events) := pollUpTo polls x
  if dropped then (y.drop.1, events ++ y.drop.2) else (y, events)

/-- The exchange is not waiting any more. -/
def isOver (x : Exchange) : Bool :=
  match x.stage with
  | .waiting _ => false
  | _ => true

variable {x : Exchange}

theorem act_of_isOver (hover : x.isOver = true) (action : Action) : x.act action = (x, []) := by
  rcases x with ⟨handler, stage⟩
  cases stage with
  | waiting k => cases hover
  | answered response => cases action <;> rfl
  | panicked payload => cases action <;> rfl
  | dropped => cases action <;> rfl

theorem isOver_drop (x : Exchange) : x.drop.1.isOver = true := by
  rcases x with ⟨handler, stage⟩
  cases stage <;> rfl

theorem actAll_of_isOver (hover : x.isOver = true) (actions : List Action) :
    x.actAll actions = (x, []) := by
  induction actions with
  | nil => rfl
  | cons action rest ih => simp [actAll, act_of_isOver hover, ih]

/-- A request on its own is polled once, and then as often as is left. -/
theorem alone_succ (x : Exchange) (polls : Nat) (dropped : Bool) :
    x.alone (polls + 1) dropped =
      ((x.poll.1.alone polls dropped).1, x.poll.2 ++ (x.poll.1.alone polls dropped).2) := by
  unfold alone
  cases dropped with
  | false => rfl
  | true => simp [pollUpTo]

/-- Of what is done to an exchange only the polls before the first drop matter, and whether it
is dropped. -/
theorem actAll_eq_alone (x : Exchange) (actions : List Action) :
    x.actAll actions = x.alone (pollsBeforeDrop actions) (actions.contains .drop) := by
  induction actions generalizing x with
  | nil => rfl
  | cons action rest ih =>
      cases action with
      | poll =>
          have hcontains : (Action.poll :: rest).contains .drop = rest.contains .drop := by simp
          have hact : x.actAll (.poll :: rest) =
              ((x.poll.1.actAll rest).1, x.poll.2 ++ (x.poll.1.actAll rest).2) := rfl
          have hpolls : pollsBeforeDrop (.poll :: rest) = pollsBeforeDrop rest + 1 := rfl
          rw [hact, ih, hcontains, hpolls, alone_succ]
      | drop =>
          have hover := actAll_of_isOver x.isOver_drop rest
          simp [actAll, act, hover, alone, pollsBeforeDrop, pollUpTo]

/-- Whether it is dropped makes no difference to the answer of an exchange. -/
theorem response?_alone (x : Exchange) (polls : Nat) (dropped : Bool) :
    (x.alone polls dropped).1.response? = (pollUpTo polls x).1.response? := by
  unfold alone
  cases dropped with
  | false => rfl
  | true =>
      rcases pollUpTo polls x with ⟨⟨handler, stage⟩, events⟩
      cases stage <;> rfl

theorem alone_false_snd (h : Handler) (polls : Nat) :
    (alone polls false { handler := h, stage := .waiting 0 }).2 =
      (pollUpTo polls { handler := h, stage := .waiting 0 }).2 := rfl

theorem alone_true_snd (h : Handler) (polls : Nat) :
    (alone polls true { handler := h, stage := .waiting 0 }).2 = loggedUntilDrop h 0 polls := rfl

theorem alone_untimed (x : Exchange) (polls : Nat) (dropped : Bool) :
    x.untimed.alone polls dropped =
      ((x.alone polls dropped).1.untimed, (x.alone polls dropped).2.map Event.untimed) := by
  unfold alone
  rw [pollUpTo_untimed]
  cases dropped with
  | false => rfl
  | true => simp [drop_untimed]

theorem pollUpTo_snd_succ (h : Handler) (k n : Nat) :
    (pollUpTo (n + 1) { handler := h, stage := .waiting k }).2 =
      (h.poll k).1 ++ if (h.poll k).2 = .pending then
        (pollUpTo n { handler := h, stage := .waiting (k + 1) }).2 else [] := by
  rcases hpoll : h.poll k with ⟨events, progress⟩
  cases progress with
  | pending => simp [pollUpTo_succ_of_pending hpoll]
  | answered response => simp [pollUpTo_succ_of_answered hpoll]
  | panicked payload => simp [pollUpTo_succ_of_panicked hpoll]

end Exchange

/-- By another clock a request on its own comes to the same answer and logs the same,
durations aside. -/
theorem alone_handle_untimed (r : Router) (watch other : Stopwatch) (request : Http.Request)
    (polls : Nat) (dropped : Bool) :
    let first := (Exchange.begin (r.handle watch request)).alone polls dropped
    let second := (Exchange.begin (r.handle other request)).alone polls dropped
    first.1.response?.map Http.Response.untimed = second.1.response?.map Http.Response.untimed ∧
      first.2.map Event.untimed = second.2.map Event.untimed := by
  intro first second
  have hfirst : (Exchange.begin (r.handle watch request).untimed).alone polls dropped =
      (first.1.untimed, first.2.map Event.untimed) :=
    Exchange.alone_untimed (.begin (r.handle watch request)) polls dropped
  have hsecond : (Exchange.begin (r.handle other request).untimed).alone polls dropped =
      (second.1.untimed, second.2.map Event.untimed) :=
    Exchange.alone_untimed (.begin (r.handle other request)) polls dropped
  rw [untimed_handle r watch other, hsecond] at hfirst
  obtain ⟨hexchange, hevents⟩ := Prod.mk.inj hfirst
  rw [← Exchange.response?_untimed, ← Exchange.response?_untimed, hexchange, hevents]
  exact ⟨rfl, rfl⟩

/-! ## The entry of a request on its own -/

namespace Accounts

open Access

variable {request : Http.Request} {watch : Stopwatch} {inner outer : Handler}

/-- The entry of a request while it is polled: that of the poll that ended it. -/
theorem entriesIn_pollUpTo (accounts : Accounts request watch inner outer) (n : Nat) :
    ∀ k, entriesIn (Exchange.pollUpTo n { handler := outer, stage := .waiting k }).2 =
      entriesIn (Exchange.pollUpTo n { handler := inner, stage := .waiting k }).2 ++
        ((inner.settled? k n).map fun ended =>
          (Tracker.ofRequest request.method request.uri).finish ended.2 (watch ended.1)).toList := by
  induction n with
  | zero => intro k; rfl
  | succ n ih =>
      intro k
      rw [Exchange.pollUpTo_snd_succ, Exchange.pollUpTo_snd_succ, entriesIn_append,
        entriesIn_append, accounts.entries_poll k, Handler.settled?]
      cases hinner : (inner.poll k).2 with
      | pending =>
          have houter := (accounts.pending_iff k).2 hinner
          simp [houter, Progress.status?, ih (k + 1)]
      | answered response =>
          have houter : (outer.poll k).2 ≠ .pending := by simp [accounts.pending_iff, hinner]
          simp [houter, Progress.status?]
      | panicked payload =>
          have houter : (outer.poll k).2 ≠ .pending := by simp [accounts.pending_iff, hinner]
          simp [houter, Progress.status?]

end Accounts

section Entry

open Access

/-- The access entries that a request has to leave: one with the status of its answer, or, when
there is none because it was given up, one that says so. -/
def dueEntries (request : Http.Request) (answer : Option Http.Response) (givenUp : Bool)
    (millis : Nat) : List Event :=
  let entry (status : Nat) : Entry :=
    { method := request.method, path := request.uri.received, status, millis }
  match answer with
  | some answer => [(entry answer.status.code).event]
  | none => if givenUp then [(entry closedByClient).event] else []

/-- Besides the access events of its handler a request leaves the entry that is due. -/
theorem entriesIn_alone (r : Router) (watch : Stopwatch) (request : Http.Request) (polls : Nat)
    (dropped : Bool) :
    let inner := (Exchange.begin (r.dispatch request).handler).alone polls dropped
    let outer := (Exchange.begin (r.handle watch request)).alone polls dropped
    ∃ millis, entriesIn outer.2 = entriesIn inner.2 ++
      dueEntries request outer.1.response? (dropped && polls ≠ 0) millis := by
  have accounts := accounts_handle r watch request
  have hstatus := accounts.response?_pollUpTo polls 0
  have hpolled := accounts.entriesIn_pollUpTo polls 0
  have hdropped := accounts.entriesIn_loggedUntilDrop polls 0
  generalize (r.dispatch request).handler = inner at accounts hstatus hpolled hdropped ⊢
  generalize r.handle watch request = outer at accounts hstatus hpolled hdropped ⊢
  dsimp only
  rw [Exchange.response?_alone, Exchange.begin, Exchange.begin]
  cases hsettled : inner.settled? 0 polls with
  | none =>
      -- no answer: an entry is due only if the exchange was begun and dropped
      have hanswer :
          (Exchange.pollUpTo polls { handler := outer, stage := .waiting 0 }).1.response? = none := by
        simpa [hsettled] using hstatus
      refine ⟨watch polls, ?_⟩
      rw [hanswer]
      cases dropped with
      | false => simpa [hsettled, dueEntries, Exchange.alone_false_snd] using hpolled
      | true =>
          by_cases hpolls : polls = 0
          · simpa [hsettled, dueEntries, Exchange.alone_true_snd, hpolls] using hdropped
          · simpa [hsettled, dueEntries, Exchange.alone_true_snd, hpolls, Tracker.abandon,
              Tracker.entry, Tracker.ofRequest] using hdropped
  | some settled =>
      -- an answer has its entry, whether the exchange is dropped after it or not
      have hpolls : polls ≠ 0 := by
        rintro rfl
        cases hsettled
      obtain ⟨answer, hanswer, hcode⟩ : ∃ answer,
          (Exchange.pollUpTo polls { handler := outer, stage := .waiting 0 }).1.response? =
            some answer ∧ answer.status = settled.2 := by
        simpa [hsettled] using hstatus
      have hentry : dueEntries request (some answer) (dropped && decide (polls ≠ 0))
          (watch settled.1) =
            [(Tracker.ofRequest request.method request.uri).finish settled.2 (watch settled.1)] := by
        simp [dueEntries, hcode, Tracker.finish, Tracker.entry, Tracker.ofRequest]
      refine ⟨watch settled.1, ?_⟩
      rw [hanswer, hentry]
      cases dropped with
      | false => simpa [hsettled, Exchange.alone_false_snd] using hpolled
      | true => simpa [hsettled, hpolls, Exchange.alone_true_snd] using hdropped

/-- A report that is answered with 200 has been accepted, and all that is logged of it is, in
this order, its beginning, its announcement, its access entry and its end. -/
theorem alone_ship {r : Router} {watch : Stopwatch} {request : Http.Request}
    {parameters : List (String × String)} {polls : Nat} {dropped : Bool}
    {answer : Http.Response}
    (hship : (r.dispatch request).handler = ship (.ok parameters))
    (hanswer : ((Exchange.begin (r.handle watch request)).alone polls dropped).1.response? =
      some answer)
    (hcode : answer.status.code = 200) :
    ∃ report, Report.ofParameters parameters = .ok report ∧
      ((Exchange.begin (r.handle watch request)).alone polls dropped).2 =
        [startedEvent, detectedEvent report,
          (Tracker.ofRequest request.method request.uri).finish .ok (watch 0),
          finishedEvent .ok (watch 0)].map (·.within (requestSpan request)) := by
  have hpoll : (r.dispatch request).handler.poll 0 =
      ((shipOutcome parameters).1, .answered (shipOutcome parameters).2) := by
    rw [hship, ship_ok]
    rfl
  have houter : (r.handle watch request).poll 0 = _ := Router.handle_poll_of_answered hpoll
  rw [Exchange.response?_alone] at hanswer
  cases polls with
  | zero => cases hanswer
  | succ n =>
      -- the first poll answers, and nothing is logged after it
      have hpolled := Exchange.pollUpTo_succ_of_answered houter n
      have hsettled : ((Exchange.begin (r.handle watch request)).alone (n + 1) dropped).2 =
          (Exchange.pollUpTo (n + 1) (.begin (r.handle watch request))).2 := by
        unfold Exchange.alone Exchange.begin
        rw [hpolled]
        cases dropped <;> simp [Exchange.drop]
      rw [hsettled]
      unfold Exchange.begin at hanswer ⊢
      rw [hpolled] at hanswer ⊢
      cases hread : Report.ofParameters parameters with
      | ok report =>
          refine ⟨report, rfl, ?_⟩
          simp [openingEvents, shipOutcome, hread, concludingEvents, outcomeEvents, reply,
            Http.Status.isServerError, Http.Status.ok]
      | error rejection =>
          have hstatus : (shipOutcome parameters).2.status = .badRequest := by
            simp [shipOutcome, hread, reply]
          obtain rfl : _ = answer := Option.some.inj hanswer
          simp [spanned, hstatus, Http.Status.badRequest] at hcode

end Entry

end Service

end ShipTelemetry
