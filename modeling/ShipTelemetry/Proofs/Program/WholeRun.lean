import ShipTelemetry.Proofs.Log.Basic
import ShipTelemetry.Proofs.Program.StartUp
import ShipTelemetry.Proofs.Server.Lifecycle
import ShipTelemetry.Proofs.Service.RequestLines

/-!
# A whole run of the program

What a run leaves in the log, what its clients get and how it ends follows from three things:
whether the log file can be opened, whether the port can be taken, and what is asked while the
program serves (`run_whole`).  The first of them decides about one warning and about nothing else;
the port decides whether anything is served at all.

## Strategy

Each stage of a run leaves events of which the filter lets only some through: of opening the log
nothing but the warning, since a sweep is told in more detail than is asked for, and of stopping
nothing but the last word of the server, since the loop speaks in the finest detail.  What a request
leaves is what is written of it when it is completed, since the end of a body is told in more detail
than is asked for, too; the filter keeps the spans of its events.
-/

namespace ShipTelemetry

/-! ## What is logged of a request -/

namespace Service

variable {watch : Stopwatch} {request : Http.Request} {e : Log.Event}

theorem span_of_mem_completedLog (he : e ∈ completedLog watch request) :
    e.span = some (requestSpan request) := by
  obtain ⟨own, rfl, hown | hframing⟩ := mem_completedLog he
  · rcases (mem_outcome hown).2 with ⟨report, -, rfl⟩ | ⟨rejection, rfl⟩ <;> rfl
  · cases hframing <;> rfl

/-- At level info it makes no difference that the end of a body is not logged. -/
theorem apply_servedLog (watch : Stopwatch) (request : Http.Request) :
    (Log.Filter.upTo .info).apply (servedLog watch request) = writtenLog .info watch request := by
  have hend : (completedAnswer watch request).closing.filter
      (fun e => decide (e.level.detail ≤ Log.Level.info.detail)) = [] := by
    rw [closing_completedAnswer]
    cases omitsBody request <;> rfl
  rw [writtenLog, completedLog_eq_append, List.filter_append, hend, List.append_nil]
  refine Log.Filter.apply_upTo fun e he span hspan => ?_
  rw [span_of_mem_completedLog (mem_completedLog_of_mem_servedLog he)] at hspan
  rw [← Option.some.inj hspan]
  exact Nat.le_refl _

end Service

namespace Program

open Log (Event Level)
open Server (Host listening stopped)

variable {s : Surroundings} {watch : Service.Stopwatch} {requests : List Http.Request}

/-! ## Opening the log -/

/-- The warning of a log file that cannot be opened. -/
def sinkWarning (s : Surroundings) : List Event :=
  match (Files.Sink.start s.files (logRoot s.environment) service s.date s.now).2 with
  | .error e => [sinkFailed (logRoot s.environment) e]
  | .ok _ => []

/-- A sweep is told in more detail than is asked for. -/
theorem apply_firstSweep (s : Surroundings) (files : Files.Tree) (sink : Files.Sink) :
    (Log.Filter.upTo .info).apply (firstSweep s files sink).events = [] := by
  refine Log.Filter.apply_upTo_eq_nil fun e he => ?_
  unfold firstSweep at he
  split at he
  next => cases he
  next => cases he
  next plan _ =>
    dsimp only at he
    split at he
    next => cases he
    next =>
      rw [List.mem_singleton.1 he]
      exact (by decide : Level.info.detail < Level.debug.detail)

theorem apply_openLog (s : Surroundings) :
    (Log.Filter.upTo .info).apply (openLog s).events = sinkWarning s := by
  unfold openLog sinkWarning
  dsimp only
  split
  next hstart =>
    rw [hstart]
    rfl
  next files sink hstart =>
    rw [hstart]
    exact apply_firstSweep s files sink

/-! ## Serving -/

/-- As long as the service is at work, every request gets the answer of the routes. -/
theorem serve_eq {host : Host} {port : Nat} (hport : port ∈ host.loops.map Server.Loop.port)
    (watch : Service.Stopwatch) (requests : List Http.Request) :
    serve host true watch port requests =
      (requests.map fun request => .ok (some (Service.completedAnswer watch request)),
        requests.flatMap (Service.servedLog watch)) := by
  induction requests with
  | nil => rfl
  | cons request rest ih =>
      rw [serve, Host.request_of_mem hport, ih]
      rfl

/-- The loop speaks in the finest detail. -/
theorem apply_stop (host : Host) (handle : Server.Handle) :
    (Log.Filter.upTo .info).apply (host.stop handle).2 = [stopped handle.port] := by
  have hclosing : ∀ e ∈ Server.closing, Level.info.detail < e.level.detail := by decide
  have hsettled : ∀ e ∈ (host.release handle .sent).settle.2,
      Level.info.detail < e.level.detail := by
    intro e he
    obtain ⟨loop, -, hmem⟩ := List.mem_flatMap.1 he
    exact hclosing e hmem
  rw [Host.stop, Log.Filter.apply_append, Log.Filter.apply_upTo_eq_nil hsettled]
  rfl

/-! ## The whole run -/

/-- The port that the program listens on. -/
def listenPort (s : Surroundings) : Nat :=
  Host.choose (Settings.port s.environment) s.picked

/-- Somebody holds that port. -/
def BindFails (s : Surroundings) : Prop := listenPort s ∈ s.host.held

instance (s : Surroundings) : Decidable (BindFails s) := inferInstanceAs (Decidable (_ ∈ _))

/-- What the log holds after the warning: the failure to take the port, or what the server says
around what is written of the requests. -/
def afterWarning (s : Surroundings) (watch : Service.Stopwatch)
    (requests : List Http.Request) : List Event :=
  if BindFails s then [startFailed ⟨Settings.port s.environment⟩]
  else
    listening (listenPort s) :: requests.flatMap (Service.writtenLog .info watch) ++
      [signalled, stopped (listenPort s)]

/-- What the clients get: nothing if the port cannot be taken, and else the answer of the routes to
each of them. -/
def repliesOf (s : Surroundings) (watch : Service.Stopwatch) (requests : List Http.Request) :
    List (Except Server.ConnectError (Option Http.Response)) :=
  if BindFails s then []
  else requests.map fun request => .ok (some (Service.completedAnswer watch request))

/-- No log filter is set, the settings of the cleanup can be counted in seconds, and clients
reach the program. -/
structure Ordinary (s : Surroundings) : Prop where
  unfiltered : Settings.logFilter s.environment = none
  countable : ¬ CannotCount s.environment
  reachable : s.network = true

namespace Ordinary

theorem run_eq (h : Ordinary s) :
    run s watch requests = runWith (.upTo .info) s watch requests := by
  rw [run, h.unfiltered]
  rfl

theorem overflow_eq (h : Ordinary s) : (openLog s).overflow = false := by
  rw [← Bool.not_eq_true, overflow_openLog_iff]
  exact fun hoverflow => h.countable hoverflow.2

/-- A port that is taken ends the run before anything is served. -/
theorem run_of_bindFails (h : Ordinary s) (hfails : BindFails s) :
    (run s watch requests).exit = .failure ∧ (run s watch requests).replies = [] ∧
      (run s watch requests).logged =
        sinkWarning s ++ [startFailed ⟨Settings.port s.environment⟩] := by
  have hstart : s.host.start (Settings.port s.environment) s.picked =
      (.error ⟨Settings.port s.environment⟩, s.host, []) := if_pos hfails
  rw [h.run_eq, runWith]
  simp only [h.overflow_eq, hstart, Bool.false_eq_true, if_false, true_and]
  rw [Run.logged, Log.Filter.apply_append, apply_openLog]
  rfl

/-- On a free port every request gets its answer, and the log has the lines of the server around
those of the requests. -/
theorem run_of_binds (h : Ordinary s) (hbinds : ¬ BindFails s) :
    (run s watch requests).exit = .success ∧
      (run s watch requests).replies =
        requests.map (fun request => .ok (some (Service.completedAnswer watch request))) ∧
      (run s watch requests).logged =
        sinkWarning s ++
          (listening (listenPort s) :: requests.flatMap (Service.writtenLog .info watch) ++
            [signalled, stopped (listenPort s)]) := by
  obtain ⟨handle, hhandle⟩ :
      ∃ handle : Server.Handle, handle = { number := s.host.started, port := listenPort s } :=
    ⟨_, rfl⟩
  have hstart : s.host.start (Settings.port s.environment) s.picked =
      (.ok handle, s.host.opened (listenPort s), [listening (listenPort s)]) := by
    rw [hhandle]
    exact if_neg hbinds
  have hport : handle.port ∈ (s.host.opened (listenPort s)).loops.map Server.Loop.port := by
    rw [hhandle]
    simp [Host.opened, Server.Loop.port]
  rw [h.run_eq, runWith]
  simp only [h.overflow_eq, hstart, h.reachable, serve_eq hport, Bool.false_eq_true, if_false,
    true_and]
  have hlistening : (Log.Filter.upTo .info).apply [listening (listenPort s)] =
      [listening (listenPort s)] := rfl
  have hsignalled : (Log.Filter.upTo .info).apply [signalled] = [signalled] := rfl
  rw [Run.logged]
  simp only [Log.Filter.apply_append, apply_openLog, Log.Filter.apply_upTo_flatMap,
    Service.apply_servedLog, apply_stop, hlistening, hsignalled, hhandle]
  rw [List.append_assoc _ [signalled]]
  rfl

theorem run_eq_cases (h : Ordinary s) (watch : Service.Stopwatch) (requests : List Http.Request) :
    (run s watch requests).logged = sinkWarning s ++ afterWarning s watch requests ∧
      (run s watch requests).exit = (if BindFails s then .failure else .success) ∧
      (run s watch requests).replies = repliesOf s watch requests := by
  unfold afterWarning repliesOf
  by_cases hfails : BindFails s
  · obtain ⟨hexit, hreplies, hlogged⟩ := h.run_of_bindFails hfails
    simp only [if_pos hfails]
    exact ⟨hlogged, hexit, hreplies⟩
  · obtain ⟨hexit, hreplies, hlogged⟩ := h.run_of_binds hfails
    simp only [if_neg hfails]
    exact ⟨hlogged, hexit, hreplies⟩

end Ordinary

/-- The log of a run is the warning of a log file that cannot be opened, if there is one, and then
either the failure to take the port or the log of a service that was started and stopped, with what
is written of all requests in between.  In the first case nothing is served and the run fails, in
the second every request gets the answer of the routes.  Another run on the same ports, which may
find other files and other settings of its log, gives the same replies, ends in the same way, and
has the same log apart from the warning. -/
theorem run_whole (h : Ordinary s) (watch : Service.Stopwatch) (requests : List Http.Request) :
    (run s watch requests).logged = sinkWarning s ++ afterWarning s watch requests ∧
      (run s watch requests).exit.code = (if BindFails s then 1 else 0) ∧
      (run s watch requests).replies = repliesOf s watch requests ∧
      ∀ other : Surroundings, Ordinary other →
        Settings.port other.environment = Settings.port s.environment → other.host = s.host →
        other.picked = s.picked →
          (run other watch requests).logged =
              sinkWarning other ++ afterWarning s watch requests ∧
            (run other watch requests).exit = (run s watch requests).exit ∧
            (run other watch requests).replies = (run s watch requests).replies := by
  obtain ⟨hlogged, hexit, hreplies⟩ := h.run_eq_cases watch requests
  refine ⟨hlogged, ?_, hreplies, fun other hother hport hhost hpicked => ?_⟩
  · rw [hexit]
    split <;> rfl
  · obtain ⟨hlogged', hexit', hreplies'⟩ := hother.run_eq_cases watch requests
    have hlisten : listenPort other = listenPort s := by
      rw [listenPort, listenPort, hport, hpicked]
    have hfails : BindFails other ↔ BindFails s := by
      rw [BindFails, BindFails, hlisten, hhost]
    refine ⟨?_, ?_, ?_⟩
    · rw [hlogged', afterWarning, afterWarning, hlisten, hport, if_congr hfails rfl rfl]
    · rw [hexit', hexit, if_congr hfails rfl rfl]
    · rw [hreplies', hreplies, repliesOf, repliesOf, if_congr hfails rfl rfl]

/-- There is a file where the directory of the log should be, and somebody else has the port. -/
def obstructed : Surroundings :=
  { environment := ⟨[]⟩, files := .put .empty ["var"] (.file "" none true),
    host := { foreign := [8080] }, picked := 0, network := true, now := ⟨0⟩, date := "1970-01-01" }

/-- Nothing is in the way. -/
def unobstructed : Surroundings := { obstructed with files := .empty, host := {} }

/-- A ship without fuel, where positions are counted from. -/
def restingShip : Report where
  name := "Argo"
  x := ⟨false, .zero⟩
  y := ⟨false, .zero⟩
  fuel := ⟨false, .zero⟩

/-- The log file and the port may fail together, and then nothing is served.  Where nothing is in
the way, a report is announced between the words of the server, and its ship is greeted. -/
theorem run_whole_fails_or_serves :
    let watch : Service.Stopwatch := fun _ => 0
    let request := Service.shipRequest "name=Argo&x=0&y=0&fuel=0"
    let failed := run obstructed watch [request]
    let served := run unobstructed watch [request]
    (failed.logged =
        [sinkFailed "/var/log/asteria/telemetry-service" (.directory .notADirectory),
          startFailed ⟨8080⟩] ∧
      failed.exit.code = 1 ∧ failed.replies = []) ∧
    served.logged =
        [listening 8080,
          (Service.detectedEvent restingShip).within (Service.requestSpan request),
          Service.entryEvent watch request 200, signalled, stopped 8080] ∧
      served.exit.code = 0 ∧
      ∃ answer : Http.Response, served.replies = [.ok (some answer)] ∧ answer.status = .ok ∧
        answer.body = "\x7b\"greeting\":\"Hello, Argo!\"\x7d" := by
  intro watch request failed served
  have hcountable : ¬ CannotCount ⟨[]⟩ := by
    unfold CannotCount
    decide
  constructor
  · -- the failing run
    have hordinary : Ordinary obstructed := ⟨rfl, hcountable, rfl⟩
    have hfails : BindFails obstructed := by decide
    have hwarning : sinkWarning obstructed =
        [sinkFailed "/var/log/asteria/telemetry-service" (.directory .notADirectory)] := by
      decide +kernel
    obtain ⟨hlogged, hcode, hreplies, -⟩ := run_whole hordinary watch [request]
    rw [hwarning, afterWarning, if_pos hfails] at hlogged
    rw [if_pos hfails] at hcode
    rw [repliesOf, if_pos hfails] at hreplies
    exact ⟨hlogged, hcode, hreplies⟩
  · -- the serving run: what is read of the query decides the answer and the announcement
    have hordinary : Ordinary unobstructed := ⟨rfl, hcountable, rfl⟩
    have hbinds : ¬ BindFails unobstructed := by decide
    have hwarning : sinkWarning unobstructed = [] := by decide +kernel
    have hread : Report.ofParameters (Query.pairs request.uri.query) = .ok restingShip := by
      decide +kernel
    have hasks : Service.asksForShip request := Service.asksForShip_shipRequest _
    have houtcome := Service.outcome_of_accepted hasks hread
    obtain ⟨hlogged, hcode, hreplies, -⟩ := run_whole hordinary watch [request]
    rw [hwarning, afterWarning, if_neg hbinds, List.flatMap_singleton,
      Service.writtenLog_info_eq, Service.announcements_of_accepted hasks hread,
      houtcome] at hlogged
    rw [if_neg hbinds] at hcode
    rw [repliesOf, if_neg hbinds] at hreplies
    refine ⟨hlogged, hcode, Service.completedAnswer watch request, hreplies, ?_, ?_⟩
    · rw [Service.status_completedAnswer, houtcome]
      rfl
    · rw [Service.body_completedAnswer, houtcome]
      decide +kernel

end Program

end ShipTelemetry
