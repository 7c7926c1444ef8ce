import ShipTelemetry.Service.Exchange

/-!
# Polling an exchange

What `Exchange.pollUpTo` comes to after one poll of a waiting exchange.  A poll that is not
done is followed by the polls that are left; an answer or a panic ends the exchange, and the
polls that are left then do nothing.  `run_of_answered_at` puts the polls of a run together: those
that are not done add to the log, and the one that answers ends it.

A handler that is driven to some point and then dropped is looked at through two functions:
`Handler.settled?` says which poll ends the request, and with what status, and
`Exchange.loggedUntilDrop` what the handler itself logs on the way.
-/

namespace ShipTelemetry.Service

/-- The status with which a poll ends a request, a panic being answered for. -/
def Progress.status? : Progress → Option Http.Status
  | .pending => none
  | .answered response => some response.status
  | .panicked _ => some .internalServerError

/-- There is no status exactly as long as the handler is not done. -/
theorem Progress.status?_eq_none_iff {progress : Progress} :
    progress.status? = none ↔ progress = .pending := by
  cases progress with
  | pending => exact iff_of_true rfl rfl
  | answered response => exact iff_of_false nofun nofun
  | panicked payload => exact iff_of_false nofun nofun

namespace Handler

/-- Which of `n` polls from poll `k` on ends the request, and with what status. -/
def settled? (h : Handler) : Nat → Nat → Option (Nat × Http.Status)
  | _, 0 => none
  | k, n + 1 =>
      match (h.poll k).2.status? with
      | some status => some (k, status)
      | none => h.settled? (k + 1) n

end Handler

namespace Exchange

/-- What a handler logs that is polled up to `n` times from poll `k` on and then dropped. -/
def loggedUntilDrop (h : Handler) (k n : Nat) : List Log.Event :=
  let (x, events) := pollUpTo n { handler := h, stage := .waiting k }
  events ++ x.drop.2

variable {h : Handler} {k : Nat} {events : List Log.Event}

/-! ## After the end -/

theorem pollUpTo_of_answered {response : Http.Response} (n : Nat) :
    pollUpTo n { handler := h, stage := .answered response } =
      ({ handler := h, stage := .answered response }, []) := by
  induction n with
  | zero => rfl
  | succ n ih => simp [pollUpTo, poll, ih]

theorem pollUpTo_of_panicked {payload : Payload} (n : Nat) :
    pollUpTo n { handler := h, stage := .panicked payload } =
      ({ handler := h, stage := .panicked payload }, []) := by
  induction n with
  | zero => rfl
  | succ n ih => simp [pollUpTo, poll, ih]

/-! ## One poll -/

theorem pollUpTo_succ_of_pending (hpoll : h.poll k = (events, .pending)) (n : Nat) :
    pollUpTo (n + 1) { handler := h, stage := .waiting k } =
      ((pollUpTo n { handler := h, stage := .waiting (k + 1) }).1,
        events ++ (pollUpTo n { handler := h, stage := .waiting (k + 1) }).2) := by
  simp [pollUpTo, poll, hpoll]

theorem pollUpTo_succ_of_answered {response : Http.Response}
    (hpoll : h.poll k = (events, .answered response)) (n : Nat) :
    pollUpTo (n + 1) { handler := h, stage := .waiting k } =
      ({ handler := h, stage := .answered response }, events) := by
  simp [pollUpTo, poll, hpoll, pollUpTo_of_answered]

theorem pollUpTo_succ_of_panicked {payload : Payload}
    (hpoll : h.poll k = (events, .panicked payload)) (n : Nat) :
    pollUpTo (n + 1) { handler := h, stage := .waiting k } =
      ({ handler := h, stage := .panicked payload }, events) := by
  simp [pollUpTo, poll, hpoll, pollUpTo_of_panicked]

/-! ## Polls that are not done -/

/-- Polls that are not done only add to the log. -/
theorem pollUpTo_of_pending (h : Handler) (m n : Nat) :
    ∀ k, (∀ j < m, (h.poll (k + j)).2 = .pending) →
      pollUpTo (m + n) { handler := h, stage := .waiting k } =
        ((pollUpTo n { handler := h, stage := .waiting (k + m) }).1,
          ((List.range m).flatMap fun j => (h.poll (k + j)).1) ++
            (pollUpTo n { handler := h, stage := .waiting (k + m) }).2) := by
  induction m with
  | zero =>
    intro k _
    simp
  | succ m ih =>
    intro k hpending
    have hfirst : h.poll k = ((h.poll k).1, .pending) :=
      Prod.ext rfl (hpending 0 (Nat.zero_lt_succ m))
    have hrest : ∀ j < m, (h.poll (k + 1 + j)).2 = .pending := fun j hj => by
      rw [Nat.add_right_comm]
      exact hpending (j + 1) (by omega)
    rw [Nat.add_right_comm, pollUpTo_succ_of_pending hfirst, ih (k + 1) hrest,
      List.range_succ_eq_map, List.flatMap_cons, List.flatMap_map, Nat.add_right_comm k 1 m]
    simp only [Nat.add_zero, Nat.add_assoc, Nat.add_comm 1, List.append_assoc]

/-! ## Polled and then dropped -/

theorem loggedUntilDrop_zero : loggedUntilDrop h k 0 = h.cancel k := rfl

theorem loggedUntilDrop_succ (n : Nat) :
    loggedUntilDrop h k (n + 1) =
      (h.poll k).1 ++
        if (h.poll k).2 = .pending then loggedUntilDrop h (k + 1) n else [] := by
  rcases hpoll : h.poll k with ⟨events, progress⟩
  cases progress with
  | pending => simp [loggedUntilDrop, pollUpTo_succ_of_pending hpoll]
  | answered response => simp [loggedUntilDrop, pollUpTo_succ_of_answered hpoll, drop]
  | panicked payload => simp [loggedUntilDrop, pollUpTo_succ_of_panicked hpoll, drop]

/-! ## Answers -/

theorem response?_pollUpTo_succ (n : Nat) :
    (pollUpTo (n + 1) { handler := h, stage := .waiting k }).1.response? =
      match (h.poll k).2 with
      | .pending => (pollUpTo n { handler := h, stage := .waiting (k + 1) }).1.response?
      | .answered response => some response
      | .panicked _ => none := by
  rcases hpoll : h.poll k with ⟨events, progress⟩
  cases progress with
  | pending => rw [pollUpTo_succ_of_pending hpoll]
  | answered response => rw [pollUpTo_succ_of_answered hpoll]; rfl
  | panicked payload => rw [pollUpTo_succ_of_panicked hpoll]; rfl

theorem run_fst (h : Handler) (n : Nat) :
    (run n h).1 = (pollUpTo n (begin h)).1.response? := by
  unfold run
  cases hresponse : (pollUpTo n (begin h)).1.response? <;> simp [hresponse]

/-- Besides what is logged until the exchange is dropped, a run logs what follows from
reading the body of the answer. -/
theorem run_snd (h : Handler) (n : Nat) :
    (run n h).2 = loggedUntilDrop h 0 n ++ (run n h).1.elim [] Http.Response.closing := by
  unfold run loggedUntilDrop begin
  rcases pollUpTo n { handler := h, stage := .waiting 0 } with ⟨⟨handler, stage⟩, events⟩
  cases stage <;> simp [response?, drop]

/-- A run of a handler that answers at poll `k`. -/
theorem run_of_answered_at {k : Nat} {response : Http.Response}
    (hpending : ∀ j < k, (h.poll j).2 = .pending)
    (hpoll : h.poll k = (events, .answered response)) (n : Nat) :
    run (k + (n + 1)) h =
      (some response,
        ((List.range k).flatMap fun j => (h.poll j).1) ++ events ++ response.closing) := by
  have hbefore : ∀ j < k, (h.poll (0 + j)).2 = .pending := fun j hj => by
    rw [Nat.zero_add]
    exact hpending j hj
  unfold run begin
  rw [pollUpTo_of_pending h k (n + 1) 0 hbefore, Nat.zero_add, pollUpTo_succ_of_answered hpoll]
  simp only [Nat.zero_add]
  rfl

/-- A run of a handler that answers at the first poll. -/
theorem run_of_answered {response : Http.Response}
    (hpoll : h.poll 0 = (events, .answered response)) (n : Nat) :
    run (n + 1) h = (some response, events ++ response.closing) := by
  simpa using run_of_answered_at (fun j hj => absurd hj (Nat.not_lt_zero j)) hpoll n

end Exchange

end ShipTelemetry.Service
