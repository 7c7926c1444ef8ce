import ShipTelemetry.Proofs.Server.Lifecycle

/-!
# How long a service lives

A service lives as long as its handle is in somebody's hands, and no longer.  Stopping the service
ends its loop, but so does letting go of the handle: the loop waits for word from the handle, and
when the handle is gone that wait is over, although nothing was sent (`lives_while_in_hand`).  So
there is no way to leave a service to itself.
-/

namespace ShipTelemetry.Server.Host

variable {h : Host} {handle : Handle} {operation : Operation} {operations : List Operation}
variable {network : Bool} {watch : Service.Stopwatch}

/-! ## One operation -/

theorem started_le_perform (sound : h.Sound) (network : Bool) (watch : Service.Stopwatch)
    (operation : Operation) :
    h.started ≤ (h.perform network watch operation).2.1.started := by
  have heffect := effect_perform sound network watch operation
  generalize h.perform network watch operation = outcome at heffect ⊢
  obtain ⟨result, next, events⟩ := outcome
  cases heffect with
  | started hfree => exact Nat.le_succ h.started
  | bindFailed hheld => exact Nat.le_refl _
  | stopped hmem => exact Nat.le_refl _
  | letGo hmem => exact Nat.le_refl _
  | notStopped hmem => exact Nat.le_refl _
  | notLetGo hmem => exact Nat.le_refl _
  | replied port request => exact Nat.le_refl _

/-- The operation takes a handle out of hand. -/
def Disposes (operation : Operation) (handle : Handle) : Prop :=
  operation = .stop handle ∨ operation = .letGo handle

theorem mem_handles_without {other : Handle} :
    handle ∈ (h.without other).handles ↔ handle ∈ h.handles ∧ handle ≠ other := by
  simp [without]

/-- A handle that has been given out once stays in hand until it is disposed of, and does not come
back. -/
theorem mem_handles_perform_iff (sound : h.Sound) (hgiven : handle.number < h.started) :
    handle ∈ (h.perform network watch operation).2.1.handles ↔
      handle ∈ h.handles ∧ ¬ Disposes operation handle := by
  have heffect := effect_perform sound network watch operation
  generalize h.perform network watch operation = outcome at heffect ⊢
  obtain ⟨result, next, events⟩ := outcome
  unfold Disposes
  cases heffect with
  | started hfree =>
      have hnew (port : Nat) : handle ≠ { number := h.started, port } := by
        rintro rfl
        exact Nat.lt_irrefl _ hgiven
      simp [opened, hnew]
  | bindFailed hheld => simp
  | stopped hmem => simp [mem_handles_without, eq_comm]
  | letGo hmem => simp [mem_handles_without, eq_comm]
  | @notStopped other hmem =>
      have hother (hin : handle ∈ h.handles) : other ≠ handle := fun hsame => hmem (hsame ▸ hin)
      simpa using hother
  | @notLetGo other hmem =>
      have hother (hin : handle ∈ h.handles) : other ≠ handle := fun hsame => hmem (hsame ▸ hin)
      simpa using hother
  | replied port request => simp

/-! ## Runs -/

theorem mem_handles_performAll_iff (sound : h.Sound) (hgiven : handle.number < h.started)
    (hpicks : PicksFreely network watch h operations) :
    handle ∈ (h.performAll network watch operations).2.handles ↔
      handle ∈ h.handles ∧ ∀ operation ∈ operations, ¬ Disposes operation handle := by
  induction operations generalizing h with
  | nil => simp [performAll]
  | cons operation rest ih =>
      have hstill := Nat.lt_of_lt_of_le hgiven (started_le_perform sound network watch operation)
      rw [performAll_cons, ih (sound.perform hpicks.1) hstill hpicks.2,
        mem_handles_perform_iff sound hgiven, List.forall_mem_cons, and_assoc]

theorem Sound.mem_loops_iff (sound : h.Sound) : { handle } ∈ h.loops ↔ handle ∈ h.handles := by
  rw [sound.atWork]
  simp

theorem Sound.perform_letGo (sound : h.Sound) (hmem : handle ∈ h.handles)
    (watch : Service.Stopwatch) :
    h.perform true watch (.letGo handle) = (.letGo, h.without handle, closing) := by
  simp [Host.perform, Host.letGo, hmem,
    sound.settle_release hmem (show Channel.abandoned.isOver from rfl)]

/-- After its start a service lives until its handle is stopped or let go: just so long its loop
is at work, its port is bound, and requests to it get the answer of the routes and their log.  A
handle that is let go gives the port back as a stopped one does, and from then on requests to it are
refused; but the server says nothing about it. -/
theorem lives_while_in_hand (foreign : List Nat) (watch : Service.Stopwatch)
    (before after : List Operation)
    (hbefore : PicksFreely true watch { foreign } before)
    (hafter : PicksFreely true watch (performAll true watch { foreign } before).2 after) :
    let h := (performAll true watch { foreign } before).2
    let last := (h.performAll true watch after).2
    ∀ handle ∈ h.handles,
      ({ handle } ∈ last.loops ↔ .stop handle ∉ after ∧ .letGo handle ∉ after) ∧
      (.stop handle ∉ after → .letGo handle ∉ after →
        handle.port ∈ last.held ∧
          ∀ request, last.perform true watch (.request handle.port request) =
            (.replied (.ok (some (Service.completedAnswer watch request))), last,
              Service.servedLog watch request)) ∧
      h.perform true watch (.letGo handle) = (.letGo, h.without handle, closing) ∧
      closing.filter (·.target = target) = [] ∧
      handle.port ∉ (h.without handle).held ∧
      ∀ request, (h.without handle).perform true watch (.request handle.port request) =
        (.replied (.error .refused), h.without handle, []) := by
  intro h last handle hmem
  have sound : h.Sound := (sound_idle foreign).performAll hbefore
  have soundLast : last.Sound := sound.performAll hafter
  have hlives : handle ∈ last.handles ↔ .stop handle ∉ after ∧ .letGo handle ∉ after := by
    rw [mem_handles_performAll_iff sound (sound.numbered handle hmem) hafter]
    constructor
    · rintro ⟨-, hkept⟩
      exact ⟨fun hstop => hkept _ hstop (.inl rfl), fun hletGo => hkept _ hletGo (.inr rfl)⟩
    · rintro ⟨hstop, hletGo⟩
      refine ⟨hmem, fun operation hoperation => ?_⟩
      rintro (rfl | rfl)
      · exact hstop hoperation
      · exact hletGo hoperation
  have hfree := sound.port_not_mem_held_without hmem
  refine ⟨soundLast.mem_loops_iff.trans hlives, fun hstop hletGo => ?_,
    sound.perform_letGo hmem watch, filter_target_closing, hfree, fun request => ?_⟩
  · have hport : handle.port ∈ last.handles.map Handle.port :=
      List.mem_map_of_mem (hlives.2 ⟨hstop, hletGo⟩)
    refine ⟨soundLast.held_eq ▸ List.mem_append_right _ hport, fun request => ?_⟩
    rw [soundLast.perform_request, if_pos hport]
  · rw [(sound.without handle).held_eq, List.mem_append, not_or] at hfree
    rw [(sound.without handle).perform_request, if_neg hfree.2, if_neg hfree.1]

/-- Two services, of which one is let go. -/
theorem lives_while_in_hand_sample :
    let before : List Operation := [.start 8080 0, .start 0 40000]
    let after : List Operation := [.letGo ⟨0, 8080⟩, .request 40000 sampleRequest]
    let h := (performAll true (fun _ => 0) {} before).2
    let last := (h.performAll true (fun _ => 0) after).2
    PicksFreely true (fun _ => 0) {} before ∧ PicksFreely true (fun _ => 0) h after ∧
      ⟨0, 8080⟩ ∈ h.handles ∧ ⟨1, 40000⟩ ∈ h.handles ∧
      { handle := ⟨0, 8080⟩ } ∉ last.loops ∧ { handle := ⟨1, 40000⟩ } ∈ last.loops := by
  intro before after h last
  have hbefore : PicksFreely true (fun _ => 0) {} before := by decide
  have hafter : PicksFreely true (fun _ => 0) h after := by decide
  have hfirst : ⟨0, 8080⟩ ∈ h.handles := by decide
  have hsecond : ⟨1, 40000⟩ ∈ h.handles := by decide
  obtain ⟨hends, -⟩ := lives_while_in_hand [] _ before after hbefore hafter _ hfirst
  obtain ⟨hgoesOn, -⟩ := lives_while_in_hand [] _ before after hbefore hafter _ hsecond
  refine ⟨hbefore, hafter, hfirst, hsecond, fun hin => ?_, hgoesOn.2 (by decide)⟩
  exact (hends.1 hin).2 (by decide)

/-- A handle is let go and never stopped; its service does not go on. -/
theorem letGo_ends_service :
    let operations : List Operation := [.start 8080 0, .letGo ⟨0, 8080⟩]
    let last := (performAll true (fun _ => 0) {} operations).2
    came true (fun _ => 0) {} operations = [.started ⟨0, 8080⟩, .letGo] ∧
      .stop ⟨0, 8080⟩ ∉ operations ∧ last.loops = [] ∧ last.held = [] ∧
      ∀ request, last.perform true (fun _ => 0) (.request 8080 request) =
        (.replied (.error .refused), last, []) :=
  ⟨rfl, by decide, rfl, rfl, fun _ => rfl⟩

end ShipTelemetry.Server.Host
