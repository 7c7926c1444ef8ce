import ShipTelemetry.Proofs.Service.Layers
import ShipTelemetry.Proofs.Service.Polling

/-!
# One access entry for every request

However often a request is polled, whatever its handler does and whenever it is dropped, the
three layers write one access entry if there was a poll at all, and none otherwise.

## Strategy

`Accounts` compares a handler with the same handler inside its layers, one poll at a time:
the layered one ends at the same poll, never by a panic, and adds an entry exactly there; and
if it is dropped after a poll it adds the entry of a request that was given up.  This holds
of the three layers together with what the router does to an answer afterwards
(`accounts_handle`).  An induction on the polls then carries it to whole runs.

Handlers may log what they like, access events included, so entries are always counted
against those that the handler logs itself.
-/

namespace ShipTelemetry.Access

open Log

/-- The access events among events, without the spans in which they happened. -/
def entriesIn (events : List Event) : List Event :=
  (events.filter (·.target = target)).map fun e => { e with span := none }

@[simp] theorem entriesIn_nil : entriesIn [] = [] := rfl

@[simp] theorem entriesIn_append (first second : List Event) :
    entriesIn (first ++ second) = entriesIn first ++ entriesIn second := by
  simp [entriesIn]

theorem entriesIn_cons (e : Event) (rest : List Event) :
    entriesIn (e :: rest) = entriesIn [e] ++ entriesIn rest :=
  entriesIn_append [e] rest

theorem entriesIn_of_target_ne {e : Event} (h : e.target ≠ target) : entriesIn [e] = [] := by
  simp [entriesIn, h]

@[simp] theorem entriesIn_event (e : Entry) : entriesIn [e.event] = [e.event] := by
  simp [entriesIn, Entry.event]

@[simp] theorem entriesIn_map_within (span : Span) (events : List Event) :
    entriesIn (events.map (·.within span)) = entriesIn events := by
  induction events with
  | nil => rfl
  | cons e rest ih =>
      rw [List.map_cons, entriesIn_cons, entriesIn_cons e, ih]
      by_cases h : e.target = target <;> simp [entriesIn, Event.within, h]

end ShipTelemetry.Access

namespace ShipTelemetry.Service

open Access

variable {request : Http.Request} {watch : Stopwatch} {inner outer : Handler}

/-! ## Entries among the events of the layers -/

@[simp] theorem entriesIn_openingEvents (k : Nat) : entriesIn (openingEvents k) = [] := by
  unfold openingEvents
  split
  · exact entriesIn_of_target_ne (by decide)
  · rfl

@[simp] theorem entriesIn_outcomeEvents (status : Http.Status) (millis : Nat) :
    entriesIn (outcomeEvents status millis) = [] := by
  have hfinished : entriesIn [finishedEvent status millis] = [] :=
    entriesIn_of_target_ne (by simp [finishedEvent, target])
  unfold outcomeEvents
  rw [entriesIn_cons, hfinished]
  split
  · exact entriesIn_of_target_ne (by simp [failedEvent, target])
  · rfl

@[simp] theorem entriesIn_payload_cons (payload : Payload) (rest : List Log.Event) :
    entriesIn (payload.event :: rest) = entriesIn rest := by
  have hpayload : entriesIn [payload.event] = [] :=
    entriesIn_of_target_ne (by simp [Payload.event, handlerTarget, target])
  rw [entriesIn_cons, hpayload, List.nil_append]

@[simp] theorem entriesIn_concludingEvents (k : Nat) (status : Http.Status) :
    entriesIn (concludingEvents request watch k status) =
      [(Tracker.ofRequest request.method request.uri).finish status (watch k)] := by
  unfold concludingEvents
  rw [entriesIn_cons]
  simp [Tracker.finish]

theorem entriesIn_closing_conclude (found : Dispatch) (k : Nat) (response : Http.Response) :
    entriesIn (found.conclude (spanned request watch k response)).closing = [] := by
  unfold Dispatch.conclude
  split
  · rfl
  · exact entriesIn_of_target_ne (by simp [Log.Event.within, endOfStreamEvent, target])

/-! ## One poll -/

/-- `outer` ends a request when `inner` does, with the same status and never by a panic, and
it leaves the access entry of the request right there. -/
structure Accounts (request : Http.Request) (watch : Stopwatch) (inner outer : Handler) :
    Prop where
  status_eq : ∀ k, (outer.poll k).2.status? = (inner.poll k).2.status?
  not_panicked : ∀ k payload, (outer.poll k).2 ≠ .panicked payload
  entries_poll : ∀ k, entriesIn (outer.poll k).1 = entriesIn (inner.poll k).1 ++
    ((inner.poll k).2.status?.map fun status =>
      (Tracker.ofRequest request.method request.uri).finish status (watch k)).toList
  entries_cancel : ∀ k, entriesIn (outer.cancel k) = entriesIn (inner.cancel k) ++
    if k = 0 then [] else
      [(Tracker.ofRequest request.method request.uri).abandon (watch k)]
  entries_closing : ∀ k response, (outer.poll k).2 = .answered response →
    entriesIn response.closing = []

/-- The layers and the router account for every handler. -/
theorem accounts_handle (r : Router) (watch : Stopwatch) (request : Http.Request) :
    Accounts request watch (r.dispatch request).handler (r.handle watch request) where
  status_eq k := by
    rcases hpoll : (r.dispatch request).handler.poll k with ⟨events, progress⟩
    cases progress with
    | pending => rw [Router.handle_poll_of_pending hpoll]
    | answered response =>
        rw [Router.handle_poll_of_answered hpoll]
        simp [Progress.status?, spanned]
    | panicked payload =>
        rw [Router.handle_poll_of_panicked hpoll]
        simp [Progress.status?, spanned, panicReply, reply]
  not_panicked k payload := by
    rcases hpoll : (r.dispatch request).handler.poll k with ⟨events, progress⟩
    cases progress with
    | pending => simp [Router.handle_poll_of_pending hpoll]
    | answered response => simp [Router.handle_poll_of_answered hpoll]
    | panicked payload => simp [Router.handle_poll_of_panicked hpoll]
  entries_poll k := by
    rcases hpoll : (r.dispatch request).handler.poll k with ⟨events, progress⟩
    cases progress with
    | pending =>
        rw [Router.handle_poll_of_pending hpoll, entriesIn_map_within]
        simp [Progress.status?]
    | answered response =>
        rw [Router.handle_poll_of_answered hpoll, entriesIn_map_within]
        simp [Progress.status?]
    | panicked payload =>
        rw [Router.handle_poll_of_panicked hpoll, entriesIn_map_within]
        simp [Progress.status?, panicReply, reply]
  entries_cancel k := by
    rw [Router.handle_cancel, entriesIn_append]
    split
    · rfl
    · simp [Tracker.abandon]
  entries_closing k response := by
    rcases hpoll : (r.dispatch request).handler.poll k with ⟨events, progress⟩
    cases progress with
    | pending => simp [Router.handle_poll_of_pending hpoll]
    | answered own =>
        simp only [Router.handle_poll_of_answered hpoll, Progress.answered.injEq]
        rintro rfl
        exact entriesIn_closing_conclude _ _ _
    | panicked payload =>
        simp only [Router.handle_poll_of_panicked hpoll, Progress.answered.injEq]
        rintro rfl
        exact entriesIn_closing_conclude _ _ _

namespace Accounts

theorem pending_iff (accounts : Accounts request watch inner outer) (k : Nat) :
    (outer.poll k).2 = .pending ↔ (inner.poll k).2 = .pending := by
  rw [← Progress.status?_eq_none_iff, accounts.status_eq k, Progress.status?_eq_none_iff]

/-! ## Whole runs -/

theorem response?_pollUpTo (accounts : Accounts request watch inner outer) (n : Nat) :
    ∀ k, (Exchange.pollUpTo n { handler := outer, stage := .waiting k }).1.response?.map
        (·.status) = (inner.settled? k n).map Prod.snd := by
  induction n with
  | zero => intro k; rfl
  | succ n ih =>
      intro k
      -- both handlers end at this poll or neither does, and only then is there more to poll
      have hstatus := accounts.status_eq k
      rw [Exchange.response?_pollUpTo_succ, Handler.settled?, ← hstatus]
      cases houter : (outer.poll k).2 with
      | pending => exact ih (k + 1)
      | answered response => rfl
      | panicked payload => exact absurd houter (accounts.not_panicked k payload)

theorem entriesIn_closing (accounts : Accounts request watch inner outer) (n : Nat) :
    ∀ k response,
      (Exchange.pollUpTo n { handler := outer, stage := .waiting k }).1.response? =
        some response → entriesIn response.closing = [] := by
  induction n with
  | zero => intro k response hresponse; cases hresponse
  | succ n ih =>
      intro k response hresponse
      rw [Exchange.response?_pollUpTo_succ] at hresponse
      cases houter : (outer.poll k).2 with
      | pending => exact ih (k + 1) response (by simpa [houter] using hresponse)
      | answered own =>
          have : own = response := by simpa [houter] using hresponse
          exact this ▸ accounts.entries_closing k own houter
      | panicked payload => exact absurd houter (accounts.not_panicked k payload)

/-- The entry of a request that is polled up to `n` times from poll `k` on and then dropped:
none if there was no poll, otherwise the one of the poll that ended it or of the drop. -/
theorem entriesIn_loggedUntilDrop (accounts : Accounts request watch inner outer) (n : Nat) :
    ∀ k, entriesIn (Exchange.loggedUntilDrop outer k n) =
      entriesIn (Exchange.loggedUntilDrop inner k n) ++
        if k + n = 0 then [] else
          [match inner.settled? k n with
            | some (ended, status) =>
                (Tracker.ofRequest request.method request.uri).finish status (watch ended)
            | none =>
                (Tracker.ofRequest request.method request.uri).abandon (watch (k + n))] := by
  induction n with
  | zero =>
      intro k
      rw [Exchange.loggedUntilDrop_zero, Exchange.loggedUntilDrop_zero]
      exact accounts.entries_cancel k
  | succ n ih =>
      intro k
      rw [Exchange.loggedUntilDrop_succ, Exchange.loggedUntilDrop_succ, entriesIn_append,
        entriesIn_append, accounts.entries_poll k, Handler.settled?]
      cases hinner : (inner.poll k).2 with
      | pending =>
          -- no entry yet, and the number of polls made in all stays the same
          have houter := (accounts.pending_iff k).2 hinner
          have hindex : k + 1 + n = k + (n + 1) := by omega
          simp [houter, Progress.status?, ih (k + 1), hindex]
      | answered response =>
          have houter : (outer.poll k).2 ≠ .pending := by simp [accounts.pending_iff, hinner]
          simp [houter, Progress.status?]
      | panicked payload =>
          have houter : (outer.poll k).2 ≠ .pending := by simp [accounts.pending_iff, hinner]
          simp [houter, Progress.status?]

end Accounts

/-- A request that is polled up to `n` times and then let go, with its answer read to the
end if there is one, leaves one access entry if `n` is not zero and none otherwise, besides
the access events of its handler.  The entry carries the method of the request, its target
as received, and the status of the answer; where there is no answer because the handler was
still pending when it was dropped, it carries the status of a request that was given up.
The answer has the status that the handler came to, or 500 if it panicked. -/
theorem entriesIn_run (r : Router) (watch : Stopwatch) (request : Http.Request) (n : Nat) :
    let inner := (r.dispatch request).handler
    let (answer, events) := Exchange.run n (r.handle watch request)
    answer.map (·.status) = (inner.settled? 0 n).map Prod.snd ∧
      entriesIn (answer.elim [] Http.Response.closing) = [] ∧
      entriesIn events = entriesIn (Exchange.loggedUntilDrop inner 0 n) ++
        if n = 0 then [] else
          [Entry.event
            { method := request.method
              path := request.uri.received
              status := (answer.map (·.status.code)).getD 499
              millis := watch (((inner.settled? 0 n).map Prod.fst).getD n) }] := by
  have accounts := accounts_handle r watch request
  generalize (r.dispatch request).handler = inner at accounts ⊢
  generalize r.handle watch request = outer at accounts ⊢
  have hstatus := accounts.response?_pollUpTo n 0
  have hclosing := accounts.entriesIn_closing n 0
  have hdropped := accounts.entriesIn_loggedUntilDrop n 0
  have hanswer := Exchange.run_fst outer n
  have hevents := Exchange.run_snd outer n
  rcases hrun : Exchange.run n outer with ⟨answer, events⟩
  simp only [hrun] at hanswer hevents
  change answer = (Exchange.pollUpTo n { handler := outer, stage := .waiting 0 }).1.response?
    at hanswer
  rw [← hanswer] at hstatus
  -- reading the body of the answer leaves no entry
  have hread : entriesIn (answer.elim [] Http.Response.closing) = [] := by
    cases answer with
    | none => rfl
    | some response => exact hclosing response hanswer.symm
  refine ⟨hstatus, hread, ?_⟩
  rw [hevents, entriesIn_append, hread, List.append_nil, hdropped, Nat.zero_add]
  congr 2
  cases hsettled : inner.settled? 0 n with
  | none =>
      have : answer = none := by simpa [hsettled] using hstatus
      subst this
      rfl
  | some settled =>
      obtain ⟨response, rfl, hresponse⟩ : ∃ response, answer = some response ∧
          response.status = settled.2 := by simpa [hsettled] using hstatus
      simp [Tracker.finish, Tracker.entry, Tracker.ofRequest, hresponse]

end ShipTelemetry.Service
