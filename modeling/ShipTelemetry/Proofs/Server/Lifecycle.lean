import ShipTelemetry.Proofs.Server.Soundness
import ShipTelemetry.Proofs.Service.Completed

/-!
# The life of services

However services are started, stopped and let go on a host, and whatever is asked of them in
between: each of them has a port of its own and answers there as long as it lives, with the answer
of the routes and their log; starting fails only where the port is taken, and then changes nothing;
stopping gives back just the one port; and the log of the server tells each start and each stop, in
order (`lifecycle`).

## Strategy

At each moment this follows from the host being sound.  The log of a whole run needs an induction
on the run, and that what requests log is never told as if the server had logged it
(`target_ne_of_mem_servedLog`).
-/

namespace ShipTelemetry

/-! ## What is logged of requests -/

namespace Service

variable {watch : Stopwatch} {request : Http.Request} {e : Log.Event}

theorem mem_completedLog_of_mem_servedLog (he : e ∈ servedLog watch request) :
    e ∈ completedLog watch request := by
  rw [completedLog_eq_append]
  exact List.mem_append_left _ he

theorem target_ne_of_mem_servedLog (he : e ∈ servedLog watch request) :
    e.target ≠ Server.target := by
  obtain ⟨own, rfl, hown⟩ := mem_completedLog (mem_completedLog_of_mem_servedLog he)
  show own.target ≠ Server.target
  rcases hown with hhandler | hframing
  · rw [target_of_mem_outcome hhandler]
    exact (by decide : handlerTarget ≠ Server.target)
  · cases hframing with
    | started => exact (by decide : "tower_http::trace::on_request" ≠ Server.target)
    | entry => exact (by decide : Access.target ≠ Server.target)
    | finished => exact (by decide : "tower_http::trace::on_response" ≠ Server.target)
    | endOfStream => exact (by decide : "tower_http::trace::on_eos" ≠ Server.target)

end Service

namespace Server

/-! ## What the server says -/

/-- What the server says in the log of an operation that came to this. -/
def announcements : Operation → Result → List Log.Event
  | _, .started handle => [listening handle.port]
  | .stop handle, .stopped => [stopped handle.port]
  | _, _ => []

namespace Host

variable {h : Host} {handle : Handle} {operation : Operation} {requested picked port : Nat}
variable {network : Bool} {watch : Service.Stopwatch}

/-- At the port of one of the services a request gets the answer of the routes. -/
theorem request_of_mem {request : Http.Request} (hport : port ∈ h.loops.map Loop.port)
    (watch : Service.Stopwatch) :
    h.request true watch port request =
      (.ok (some (Service.completedAnswer watch request)), Service.servedLog watch request) := by
  rw [Host.request, if_neg (by decide), if_pos hport, Service.poll_router]
  rfl

/-- At any other port it gets none. -/
theorem request_of_notMem {request : Http.Request} (hport : port ∉ h.loops.map Loop.port)
    (watch : Service.Stopwatch) :
    h.request true watch port request =
      (.error (if port ∈ h.foreign then .foreign else .refused), []) := by
  rw [Host.request, if_neg (by decide), if_neg hport]
  split <;> rfl

/-- What a request logs is not told as if the server had logged it. -/
theorem target_ne_of_mem_request {e : Log.Event} {request : Http.Request}
    (he : e ∈ (h.request network watch port request).2) : e.target ≠ target := by
  cases network with
  | false => cases he
  | true =>
      by_cases hport : port ∈ h.loops.map Loop.port
      · rw [request_of_mem hport] at he
        exact Service.target_ne_of_mem_servedLog he
      · rw [request_of_notMem hport] at he
        cases he

theorem filter_target_closing : closing.filter (·.target = target) = [] := by
  decide

/-- One operation: all that the server says of it is its announcement. -/
theorem filter_target_perform (sound : h.Sound) (network : Bool) (watch : Service.Stopwatch)
    (operation : Operation) :
    (h.perform network watch operation).2.2.filter (·.target = target) =
      announcements operation (h.perform network watch operation).1 := by
  have heffect := effect_perform sound network watch operation
  generalize h.perform network watch operation = outcome at heffect ⊢
  obtain ⟨result, next, events⟩ := outcome
  cases heffect with
  | started hfree => rfl
  | bindFailed hheld => rfl
  | stopped hmem =>
      rw [List.filter_append, filter_target_closing]
      rfl
  | letGo hmem => exact filter_target_closing
  | notStopped hmem => rfl
  | notLetGo hmem => rfl
  | replied port request =>
      have hsilent : (h.request network watch port request).2.filter (·.target = target) = [] :=
        List.filter_eq_nil_iff.2 fun e he => by simpa using target_ne_of_mem_request he
      exact hsilent

/-- What a run came to, operation by operation. -/
def came (network : Bool) (watch : Service.Stopwatch) (h : Host) (operations : List Operation) :
    List Result :=
  (h.performAll network watch operations).1.map Prod.fst

/-- What is logged in a run. -/
def logged (network : Bool) (watch : Service.Stopwatch) (h : Host)
    (operations : List Operation) : List Log.Event :=
  (h.performAll network watch operations).1.flatMap Prod.snd

/-- A run: the server says nothing but the announcements, in order. -/
theorem filter_target_logged (sound : h.Sound) {operations : List Operation}
    (hpicks : PicksFreely network watch h operations) :
    (logged network watch h operations).filter (·.target = target) =
      (List.zipWith announcements operations (came network watch h operations)).flatten := by
  induction operations generalizing h with
  | nil => rfl
  | cons operation rest ih =>
      have hrest := ih (sound.perform hpicks.1) hpicks.2
      unfold logged came at hrest ⊢
      rw [performAll_cons, List.flatMap_cons, List.filter_append, hrest,
        filter_target_perform sound network watch operation]
      rfl

/-- Every service was started in the run, on the port that was asked for, or was there before. -/
theorem exists_start (sound : h.Sound) {operations : List Operation}
    (hpicks : PicksFreely network watch h operations)
    (hmem : handle ∈ (h.performAll network watch operations).2.handles) :
    handle ∈ h.handles ∨ ∃ requested picked,
      (.start requested picked, .started handle) ∈
          operations.zip (came network watch h operations) ∧
        handle.port = choose requested picked := by
  induction operations generalizing h with
  | nil => exact .inl hmem
  | cons operation rest ih =>
      have hzip : (operation :: rest).zip (came network watch h (operation :: rest)) =
          (operation, (h.perform network watch operation).1) ::
            rest.zip (came network watch (h.perform network watch operation).2.1 rest) := rfl
      have heffect := effect_perform sound network watch operation
      rw [hzip]
      rcases ih (sound.perform hpicks.1) hpicks.2 hmem with
        hnext | ⟨requested, picked, hstart, hport⟩
      · -- the handle came up at the first operation or before it
        generalize h.perform network watch operation = outcome at heffect hnext ⊢
        obtain ⟨result, next, events⟩ := outcome
        cases heffect with
        | started hfree =>
            rcases List.mem_append.1 hnext with hold | hnew
            · exact .inl hold
            · obtain rfl := List.mem_singleton.1 hnew
              exact .inr ⟨_, _, List.mem_cons_self, rfl⟩
        | bindFailed hheld => exact .inl hnext
        | stopped hmem => exact .inl (List.mem_of_mem_filter hnext)
        | letGo hmem => exact .inl (List.mem_of_mem_filter hnext)
        | notStopped hmem => exact .inl hnext
        | notLetGo hmem => exact .inl hnext
        | replied port request => exact .inl hnext
      · exact .inr ⟨requested, picked, List.mem_cons_of_mem _ hstart, hport⟩

/-! ## At each moment -/

theorem perform_start_of_free (hfree : choose requested picked ∉ h.held)
    (watch : Service.Stopwatch) :
    h.perform true watch (.start requested picked) =
      (.started { number := h.started, port := choose requested picked },
        h.opened (choose requested picked), [listening (choose requested picked)]) := by
  simp [perform, start, hfree]

theorem perform_start (hpicks : h.PicksFree (.start requested picked))
    (watch : Service.Stopwatch) :
    h.perform true watch (.start requested picked) =
      if requested ≠ 0 ∧ requested ∈ h.held then (.bindFailed ⟨requested⟩, h, [])
      else
        (.started { number := h.started, port := choose requested picked },
          h.opened (choose requested picked), [listening (choose requested picked)]) := by
  by_cases hheld : requested ≠ 0 ∧ requested ∈ h.held
  · have htaken := (choose_mem_held_iff hpicks).2 hheld
    rw [if_pos hheld]
    simp [perform, start, htaken]
  · rw [if_neg hheld]
    exact perform_start_of_free (mt (choose_mem_held_iff hpicks).1 hheld) watch

namespace Sound

theorem filter_port (sound : h.Sound) (hmem : handle ∈ h.handles) :
    h.loops.filter (fun l => l.port = handle.port) = [{ handle }] := by
  have hsame : h.handles.filter (fun other => other.port = handle.port) = [handle] := by
    have hiff : ∀ other ∈ h.handles,
        decide (other.port = handle.port) = decide (other = handle) := by
      intro other hother
      exact decide_eq_decide.2
        ⟨List.inj_on_of_nodup_map sound.distinct hother hmem, congrArg Handle.port⟩
    rw [List.filter_congr hiff, sound.filter_handle hmem]
  have hports : ((fun l => decide (l.port = handle.port)) ∘ fun handle => ({ handle } : Loop)) =
      fun other => decide (other.port = handle.port) := rfl
  rw [sound.atWork, List.filter_map, hports, hsame, List.map_singleton]

theorem perform_request (sound : h.Sound) (watch : Service.Stopwatch) (port : Nat)
    (request : Http.Request) :
    h.perform true watch (.request port request) =
      if port ∈ h.handles.map Handle.port then
        (.replied (.ok (some (Service.completedAnswer watch request))), h,
          Service.servedLog watch request)
      else
        (.replied (.error (if port ∈ h.foreign then .foreign else .refused)), h, []) := by
  rw [← sound.ports_eq]
  by_cases hport : port ∈ h.loops.map Loop.port
  · rw [if_pos hport, Host.perform, request_of_mem hport]
  · rw [if_neg hport, Host.perform, request_of_notMem hport]

theorem perform_stop (sound : h.Sound) (hmem : handle ∈ h.handles) (watch : Service.Stopwatch) :
    h.perform true watch (.stop handle) =
      (.stopped, h.without handle, closing ++ [stopped handle.port]) := by
  simp [Host.perform, Host.stop, hmem,
    sound.settle_release hmem (show Channel.sent.isOver from rfl)]

/-- A handle that goes gives back its port, and no other. -/
theorem perm_held_without (sound : h.Sound) (hmem : handle ∈ h.handles) :
    h.held.Perm (handle.port :: (h.without handle).held) := by
  have hrest : h.handles.erase handle = (h.without handle).handles := by
    rw [sound.nodup_handles.erase_eq_filter handle]
    exact List.filter_congr fun other _ => (decide_not ..).symm
  have hhandles : h.handles.Perm (handle :: (h.without handle).handles) :=
    hrest ▸ List.perm_cons_erase hmem
  rw [sound.held_eq, (sound.without handle).held_eq]
  exact ((hhandles.map Handle.port).append_left h.foreign).trans List.perm_middle

theorem port_not_mem_held_without (sound : h.Sound) (hmem : handle ∈ h.handles) :
    handle.port ∉ (h.without handle).held := by
  rw [(sound.without handle).held_eq, List.mem_append, not_or]
  refine ⟨(sound.ownPorts handle hmem).2, fun hport => ?_⟩
  obtain ⟨other, hother, hsame⟩ := List.mem_map.1 hport
  obtain ⟨hother, hne⟩ := List.mem_filter.1 hother
  exact of_decide_eq_true hne (List.inj_on_of_nodup_map sound.distinct hother hmem hsame)

end Sound

/-! ## Throughout a run -/

/-- However services are started, stopped and let go, and whatever is asked in between:

* the services that live have ports of their own, none of them zero or held by others, and each
  got the port that it was started on; those ports are held besides the foreign ones, each by the
  loop of its service and no other;
* at a port a request gets the answer of the routes, and their log, if a service lives there, and
  otherwise it is refused or somebody else's;
* starting fails if the port is asked for and held, and then changes nothing; otherwise there is
  one more service on the port;
* stopping succeeds, takes away the service and its port and nothing else, and the port can be
  had again;
* the server says that it listens at every start that succeeds, and that it has stopped at every
  stop, with the port, in this order, and nothing else. -/
theorem lifecycle (foreign : List Nat) (watch : Service.Stopwatch) (operations : List Operation)
    (hpicks : PicksFreely true watch { foreign } operations) :
    let h := (performAll true watch { foreign } operations).2
    let came := came true watch { foreign } operations
    let ports := h.handles.map Handle.port
    (ports.Nodup ∧ h.held = foreign ++ ports ∧
      ∀ handle ∈ h.handles, handle.port ≠ 0 ∧ handle.port ∉ foreign ∧
        h.loops.filter (fun l => l.port = handle.port) = [{ handle }] ∧
        ∃ requested picked, (.start requested picked, .started handle) ∈ operations.zip came ∧
          handle.port = choose requested picked) ∧
    (∀ port request, h.perform true watch (.request port request) =
      if port ∈ ports then
        (.replied (.ok (some (Service.completedAnswer watch request))), h,
          Service.servedLog watch request)
      else (.replied (.error (if port ∈ foreign then .foreign else .refused)), h, [])) ∧
    (∀ requested picked, (requested = 0 → picked ≠ 0 ∧ picked ∉ h.held) →
      h.perform true watch (.start requested picked) =
        if requested ≠ 0 ∧ requested ∈ h.held then (.bindFailed ⟨requested⟩, h, [])
        else
          (.started { number := h.started, port := choose requested picked },
            h.opened (choose requested picked), [listening (choose requested picked)])) ∧
    (∀ handle ∈ h.handles,
      h.perform true watch (.stop handle) =
          (.stopped, h.without handle, closing ++ [stopped handle.port]) ∧
        h.held.Perm (handle.port :: (h.without handle).held) ∧
        handle.port ∉ (h.without handle).held ∧
        ∀ picked, (h.without handle).perform true watch (.start handle.port picked) =
          (.started { number := h.started, port := handle.port },
            (h.without handle).opened handle.port, [listening handle.port])) ∧
    (logged true watch { foreign } operations).filter (·.target = target) =
      (List.zipWith announcements operations came).flatten := by
  intro h came ports
  -- the run keeps the host sound, and each part is read off the host it ends at
  have sound : h.Sound := (sound_idle foreign).performAll hpicks
  have hforeign : h.foreign = foreign := foreign_performAll (sound_idle foreign) hpicks
  have hheld : h.held = foreign ++ ports := hforeign ▸ sound.held_eq
  refine ⟨⟨sound.distinct, hheld, fun handle hmem => ?_⟩, fun port request => ?_,
    fun requested picked hpicked => perform_start hpicked watch, fun handle hmem => ?_,
    filter_target_logged (sound_idle foreign) hpicks⟩
  · -- no service was there before the run, so each was started in it
    obtain ⟨hzero, hown⟩ := sound.ownPorts handle hmem
    refine ⟨hzero, hforeign ▸ hown, sound.filter_port hmem, ?_⟩
    rcases exists_start (sound_idle foreign) hpicks hmem with hold | hstart
    · cases hold
    · exact hstart
  · exact hforeign ▸ sound.perform_request watch port request
  · -- a port that is given back is not zero, so it is the one that is asked for again
    have hasked : handle.port ≠ 0 := (sound.ownPorts handle hmem).1
    have hfree := sound.port_not_mem_held_without hmem
    refine ⟨sound.perform_stop hmem watch, sound.perm_held_without hmem, hfree,
      fun picked => ?_⟩
    have hport : choose handle.port picked = handle.port := if_neg hasked
    have hstart := perform_start_of_free (hport.symm ▸ hfree) watch
    rwa [hport] at hstart

/-- A request for a report that is accepted. -/
def sampleRequest : Http.Request := Service.shipRequest "name=Argo&x=0&y=0&fuel=0"

/-- Two services, a start that fails, and a port that is used again. -/
def sampleOperations : List Operation :=
  [.start 8080 0, .start 0 40000, .start 8080 0, .request 40000 sampleRequest,
   .stop ⟨0, 8080⟩, .start 8080 0]

theorem lifecycle_sample :
    let last := (performAll true (fun _ => 0) { foreign := [80] } sampleOperations).2
    PicksFreely true (fun _ => 0) { foreign := [80] } sampleOperations ∧
      (logged true (fun _ => 0) { foreign := [80] } sampleOperations).filter
          (·.target = target) =
        [listening 8080, listening 40000, stopped 8080, listening 8080] ∧
      (∃ answer : Http.Response,
        (last.perform true (fun _ => 0) (.request 8080 sampleRequest)).1 =
            .replied (.ok (some answer)) ∧
          answer.status = .ok ∧ answer.body = "\x7b\"greeting\":\"Hello, Argo!\"\x7d") ∧
      (last.perform true (fun _ => 0) (.request 9090 sampleRequest)).1 =
        .replied (.error .refused) := by
  intro last
  have hpicks : PicksFreely true (fun _ => 0) { foreign := [80] } sampleOperations := by
    decide +kernel
  obtain ⟨-, hrequest, -, -, hlog⟩ := lifecycle [80] (fun _ => 0) sampleOperations hpicks
  have hports : last.handles.map Handle.port = [40000, 8080] := by decide +kernel
  refine ⟨hpicks, hlog.trans ?_, ⟨Service.completedAnswer (fun _ => 0) sampleRequest, ?_, ?_⟩, ?_⟩
  · decide +kernel
  · rw [hrequest, hports]
    rfl
  · decide +kernel
  · rw [hrequest, hports]
    rfl

end Host

end Server

end ShipTelemetry
