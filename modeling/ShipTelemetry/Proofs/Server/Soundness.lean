import Mathlib.Data.List.Count
import Mathlib.Data.List.Nodup
import ShipTelemetry.Server.Basic

/-!
# What is true of a host throughout a run

Every handle in somebody's hands has its loop, still waiting for word from it, and there are no
other loops.  The handles are numbered in the order of their starts, and their ports are distinct,
are not zero, and are not held by others.

## Strategy

`Effect` says once what each operation comes to, does to a sound host, and logs
(`effect_perform`).  That a host stays sound is then a short case analysis (`Sound.perform`), and
an induction carries it through a run (`Sound.performAll`).  It rests on one assumption about the
system: where it is asked to pick a port, it picks one that is free.
-/

namespace ShipTelemetry.Server

namespace Host

variable {h : Host} {handle : Handle} {operation : Operation} {requested picked port : Nat}
variable {network : Bool} {watch : Service.Stopwatch}

/-! ## Picked ports -/

/-- Where the system is asked to pick a port, the one it picks is free. -/
def PicksFree (h : Host) : Operation → Prop
  | .start requested picked => requested = 0 → picked ≠ 0 ∧ picked ∉ h.held
  | _ => True

instance (h : Host) (operation : Operation) : Decidable (h.PicksFree operation) :=
  match operation with
  | .start requested picked =>
      inferInstanceAs (Decidable (requested = 0 → picked ≠ 0 ∧ picked ∉ h.held))
  | .stop _ => inferInstanceAs (Decidable True)
  | .letGo _ => inferInstanceAs (Decidable True)
  | .request _ _ => inferInstanceAs (Decidable True)

/-- The system picks free ports throughout a run. -/
def PicksFreely (network : Bool) (watch : Service.Stopwatch) : Host → List Operation → Prop
  | _, [] => True
  | h, operation :: rest =>
      h.PicksFree operation ∧ PicksFreely network watch (h.perform network watch operation).2.1 rest

instance decidablePicksFreely (network : Bool) (watch : Service.Stopwatch) :
    ∀ (h : Host) (operations : List Operation), Decidable (h.PicksFreely network watch operations)
  | _, [] => inferInstanceAs (Decidable True)
  | h, operation :: rest =>
      have := decidablePicksFreely network watch (h.perform network watch operation).2.1 rest
      inferInstanceAs (Decidable (h.PicksFree operation ∧
        PicksFreely network watch (h.perform network watch operation).2.1 rest))

theorem choose_ne_zero (hpicks : h.PicksFree (.start requested picked)) :
    choose requested picked ≠ 0 := by
  unfold choose
  split
  next hzero => exact (hpicks hzero).1
  next hasked => exact hasked

theorem choose_mem_held_iff (hpicks : h.PicksFree (.start requested picked)) :
    choose requested picked ∈ h.held ↔ requested ≠ 0 ∧ requested ∈ h.held := by
  unfold choose
  split
  next hzero => exact iff_of_false (hpicks hzero).2 fun hheld => hheld.1 hzero
  next hasked => exact ⟨fun hheld => ⟨hasked, hheld⟩, fun hheld => hheld.2⟩

/-! ## Sound hosts -/

/-- Handles and loops belong together, and every loop has a port of its own. -/
structure Sound (h : Host) : Prop where
  atWork : h.loops = h.handles.map fun handle => { handle }
  numbered : ∀ handle ∈ h.handles, handle.number < h.started
  distinct : (h.handles.map Handle.port).Nodup
  ownPorts : ∀ handle ∈ h.handles, handle.port ≠ 0 ∧ handle.port ∉ h.foreign

/-- A host without a service. -/
def without (h : Host) (handle : Handle) : Host :=
  { h with loops := h.loops.filter fun l => l.handle ≠ handle
           handles := h.handles.filter (· ≠ handle) }

/-- The loop of a handle when one handle, this or another, has left its channel like this. -/
def loopAfter (gone : Handle) (channel : Channel) (handle : Handle) : Loop :=
  if handle = gone then { handle, channel } else { handle }

/-- Only the loop of the handle that has gone is over; the others go on waiting. -/
theorem isOver_loopAfter {channel : Channel} (hover : channel.isOver = true)
    (gone handle : Handle) :
    (loopAfter gone channel handle).channel.isOver = decide (handle = gone) := by
  by_cases hsame : handle = gone
  · simp [loopAfter, hsame, hover]
  · simp [loopAfter, hsame, Channel.isOver, Channel.received?]

theorem sound_idle (foreign : List Nat) : Sound { foreign } where
  atWork := rfl
  numbered := by simp
  distinct := List.nodup_nil
  ownPorts := by simp

namespace Sound

theorem ports_eq (sound : h.Sound) : h.loops.map Loop.port = h.handles.map Handle.port := by
  rw [sound.atWork, List.map_map]
  rfl

theorem held_eq (sound : h.Sound) : h.held = h.foreign ++ h.handles.map Handle.port := by
  rw [held, sound.ports_eq]

theorem nodup_handles (sound : h.Sound) : h.handles.Nodup := List.Nodup.of_map _ sound.distinct

theorem filter_handle (sound : h.Sound) (hmem : handle ∈ h.handles) :
    h.handles.filter (fun other => other = handle) = [handle] := by
  rw [List.filter_eq, List.count_eq_one_of_mem sound.nodup_handles hmem, List.replicate_one]

theorem opened (sound : h.Sound) (hzero : port ≠ 0) (hfree : port ∉ h.held) :
    (h.opened port).Sound where
  atWork := by simp [Host.opened, sound.atWork]
  numbered := by
    intro handle hmem
    show handle.number < h.started + 1
    rcases List.mem_append.1 hmem with hold | hnew
    · exact Nat.lt_succ_of_lt (sound.numbered handle hold)
    · rw [List.mem_singleton.1 hnew]
      exact Nat.lt_succ_self h.started
  distinct := by
    rw [sound.held_eq, List.mem_append, not_or] at hfree
    show ((h.handles ++ [_]).map Handle.port).Nodup
    rw [List.map_append]
    refine sound.distinct.append (List.nodup_singleton _) ?_
    simpa using hfree.2
  ownPorts := by
    intro handle hmem
    rw [sound.held_eq, List.mem_append, not_or] at hfree
    rcases List.mem_append.1 hmem with hold | hnew
    · exact sound.ownPorts handle hold
    · rw [List.mem_singleton.1 hnew]
      exact ⟨hzero, hfree.1⟩

theorem without (sound : h.Sound) (handle : Handle) : (h.without handle).Sound where
  atWork := by simp [Host.without, sound.atWork, List.filter_map, Function.comp_def]
  numbered := fun other hmem => sound.numbered other (List.mem_of_mem_filter hmem)
  distinct := sound.distinct.sublist (List.filter_sublist.map _)
  ownPorts := fun other hmem => sound.ownPorts other (List.mem_of_mem_filter hmem)

theorem loops_release (sound : h.Sound) (handle : Handle) (channel : Channel) :
    (h.release handle channel).loops = h.handles.map (loopAfter handle channel) := by
  simp [release, sound.atWork, loopAfter]

/-- A handle that goes takes its own loop with it, and no other. -/
theorem settle_release (sound : h.Sound) (hmem : handle ∈ h.handles) {channel : Channel}
    (hover : channel.isOver = true) :
    (h.release handle channel).settle = (h.without handle, closing) := by
  have hends := isOver_loopAfter hover handle
  have hleft : (h.handles.map (loopAfter handle channel)).filter (fun l => !l.channel.isOver) =
      (h.without handle).loops := by
    have hothers :
        h.handles.filter (fun other => !(loopAfter handle channel other).channel.isOver) =
          (h.without handle).handles := by simp [hends, Host.without]
    rw [(sound.without handle).atWork, List.filter_map, Function.comp_def, hothers]
    refine List.map_congr_left fun other hother => ?_
    exact if_neg (by simpa using (List.mem_filter.1 hother).2)
  have hended : (h.handles.map (loopAfter handle channel)).filter (fun l => l.channel.isOver) =
      [loopAfter handle channel handle] := by
    have hown : h.handles.filter (fun other => (loopAfter handle channel other).channel.isOver) =
        [handle] := by
      simp only [hends, sound.filter_handle hmem]
    rw [List.filter_map, Function.comp_def, hown, List.map_singleton]
  unfold settle
  rw [sound.loops_release, hleft, hended]
  simp [release, Host.without]

end Sound

/-! ## What an operation does -/

/-- What an operation on a sound host comes to, the host after it, and what it logs. -/
inductive Effect (network : Bool) (watch : Service.Stopwatch) (h : Host) :
    Operation → Result → Host → List Log.Event → Prop
  | started {requested picked : Nat} (hfree : choose requested picked ∉ h.held) :
      Effect network watch h (.start requested picked)
        (.started { number := h.started, port := choose requested picked })
        (h.opened (choose requested picked)) [listening (choose requested picked)]
  | bindFailed {requested picked : Nat} (hheld : choose requested picked ∈ h.held) :
      Effect network watch h (.start requested picked) (.bindFailed ⟨requested⟩) h []
  | stopped {handle : Handle} (hmem : handle ∈ h.handles) :
      Effect network watch h (.stop handle) .stopped (h.without handle)
        (closing ++ [stopped handle.port])
  | letGo {handle : Handle} (hmem : handle ∈ h.handles) :
      Effect network watch h (.letGo handle) .letGo (h.without handle) closing
  | notStopped {handle : Handle} (hmem : handle ∉ h.handles) :
      Effect network watch h (.stop handle) .notRunning h []
  | notLetGo {handle : Handle} (hmem : handle ∉ h.handles) :
      Effect network watch h (.letGo handle) .notRunning h []
  | replied (port : Nat) (request : Http.Request) :
      Effect network watch h (.request port request)
        (.replied (h.request network watch port request).1) h
        (h.request network watch port request).2

theorem effect_perform (sound : h.Sound) (network : Bool) (watch : Service.Stopwatch)
    (operation : Operation) :
    let (result, next, events) := h.perform network watch operation
    Effect network watch h operation result next events := by
  cases operation with
  | start requested picked =>
      by_cases hheld : choose requested picked ∈ h.held
      · simpa [perform, start, hheld] using Effect.bindFailed hheld
      · simpa [perform, start, hheld] using Effect.started hheld
  | stop handle =>
      by_cases hmem : handle ∈ h.handles
      · simpa [perform, stop, hmem, sound.settle_release hmem (show Channel.sent.isOver from rfl)]
          using Effect.stopped hmem
      · simpa [perform, hmem] using Effect.notStopped hmem
  | letGo handle =>
      by_cases hmem : handle ∈ h.handles
      · simpa [perform, letGo, hmem, sound.settle_release hmem
          (show Channel.abandoned.isOver from rfl)] using Effect.letGo hmem
      · simpa [perform, hmem] using Effect.notLetGo hmem
  | request port request => exact .replied port request

/-! ## Runs -/

theorem performAll_cons (h : Host) (operation : Operation) (rest : List Operation) :
    h.performAll network watch (operation :: rest) =
      (((h.perform network watch operation).1, (h.perform network watch operation).2.2) ::
          ((h.perform network watch operation).2.1.performAll network watch rest).1,
        ((h.perform network watch operation).2.1.performAll network watch rest).2) := rfl

theorem Sound.perform (sound : h.Sound) (hpicks : h.PicksFree operation) :
    (h.perform network watch operation).2.1.Sound := by
  have heffect := effect_perform sound network watch operation
  generalize h.perform network watch operation = outcome at heffect ⊢
  obtain ⟨result, next, events⟩ := outcome
  cases heffect with
  | started hfree => exact sound.opened (choose_ne_zero hpicks) hfree
  | bindFailed hheld => exact sound
  | stopped hmem => exact sound.without _
  | letGo hmem => exact sound.without _
  | notStopped hmem => exact sound
  | notLetGo hmem => exact sound
  | replied port request => exact sound

theorem foreign_perform (sound : h.Sound) :
    (h.perform network watch operation).2.1.foreign = h.foreign := by
  have heffect := effect_perform sound network watch operation
  generalize h.perform network watch operation = outcome at heffect ⊢
  obtain ⟨result, next, events⟩ := outcome
  cases heffect <;> rfl

theorem Sound.performAll (sound : h.Sound) {operations : List Operation}
    (hpicks : PicksFreely network watch h operations) :
    (h.performAll network watch operations).2.Sound := by
  induction operations generalizing h with
  | nil => exact sound
  | cons operation rest ih =>
      rw [performAll_cons]
      exact ih (sound.perform hpicks.1) hpicks.2

theorem foreign_performAll (sound : h.Sound) {operations : List Operation}
    (hpicks : PicksFreely network watch h operations) :
    (h.performAll network watch operations).2.foreign = h.foreign := by
  induction operations generalizing h with
  | nil => rfl
  | cons operation rest ih =>
      rw [performAll_cons]
      exact (ih (sound.perform hpicks.1) hpicks.2).trans (foreign_perform sound)

end Host

end ShipTelemetry.Server
