import ShipTelemetry.Files.Retention
import ShipTelemetry.Files.Sink
import ShipTelemetry.Log.Layout
import ShipTelemetry.Server.Basic
import ShipTelemetry.Settings

/-!
# The program

The program opens its log, starts the service, serves until it is told to stop, and stops.
A log filter whose reading breaks off ends it with a panic before anything is done.  A log
file that cannot be opened is reported and done without.  Settings of the cleanup are looked
at only when there is a log file; a retention or an interval too long for the clock ends the
program with a panic before anything is served.  A port that is taken ends it with a
failure.
-/

namespace ShipTelemetry.Program

/-- The name of the service, also that of its log files. -/
def service : String := "telemetry-service"

/-- What the program finds where it runs: the variables that are set, the files, the ports,
whether clients can reach it, and the clock. -/
structure Surroundings where
  environment : Environment
  files : Files.Tree
  host : Server.Host
  picked : Nat
  network : Bool
  now : Moment
  date : String
deriving DecidableEq, Repr

/-- How a run ends. -/
inductive Exit
  | success
  | failure
  | panic
deriving DecidableEq, Repr

/-- The number that the system is told at the end. -/
def Exit.code : Exit → Nat
  | success => 0
  | failure => 1
  | panic => 101

/-- What a run leaves behind: how it ended, the filter of its log and what happened, what its
clients got, and the files. -/
structure Run where
  exit : Exit
  filter : Log.Filter
  events : List Log.Event
  replies : List (Except Server.ConnectError (Option Http.Response))
  files : Files.Tree
  sink : Option Files.Sink

/-! ## Events -/

/-- The event of a log file that cannot be opened. -/
def sinkFailed (path : String) (e : Files.SinkError) : Log.Event :=
  { level := .warn, target := "asteria_common::logging", message := [.text "file logging disabled"],
    fields := [.plain "path" path, .plain "error" e.message] }

/-- The event of a sweep that removed files. -/
def pruned (removed : Nat) : Log.Event :=
  { level := .debug, target := "asteria_common::logging",
    message := [.text "pruned rotated log files"],
    fields := [.plain "removed" (Decimal.text removed)] }

/-- The event of a service that cannot be started. -/
def startFailed (e : Server.BindError) : Log.Event :=
  { level := .error, target := "telemetry_service",
    message := [.text "telemetry service failed to start"], fields := [⟨"error", e.message⟩] }

/-- The event of a signal to stop. -/
def signalled : Log.Event :=
  { level := .info, target := "asteria_common::net", message := [.text "shutdown signal received"] }

/-! ## Opening the log -/

/-- The directory of the service's log files. -/
def logRoot (env : Environment) : String := Files.Path.join (Settings.logDirectory env) service

/-- What comes of opening the log: the events, the files, and the log file; or an overflow.
-/
structure Opening where
  events : List Log.Event
  files : Files.Tree
  sink : Option Files.Sink
  overflow : Bool

/-- Sweeps once, as the cleanup does when it begins. -/
def firstSweep (s : Surroundings) (files : Files.Tree) (sink : Files.Sink) : Opening :=
  match Files.Plan.ofSettings (Settings.retentionDays s.environment)
      (Settings.cleanupMinutes s.environment) with
  | .error .multiply => { events := [], files, sink := some sink, overflow := true }
  | .ok none => { events := [], files, sink := some sink, overflow := false }
  | .ok (some plan) =>
      let (left, removed) := plan.sweep files (Files.Path.ofText (logRoot s.environment)) s.now
      { events := if removed = 0 then [] else [pruned removed], files := left, sink := some sink,
        overflow := false }

/-- Opens the log. -/
def openLog (s : Surroundings) : Opening :=
  let root := logRoot s.environment
  match Files.Sink.start s.files root service s.date s.now with
  | (files, .error e) =>
      { events := [sinkFailed root e], files, sink := none, overflow := false }
  | (files, .ok sink) => firstSweep s files sink

/-! ## Serving -/

/-- Serves requests one after the other: what the clients got, and what is logged. -/
def serve (host : Server.Host) (network : Bool) (watch : Service.Stopwatch) (port : Nat) :
    List Http.Request →
      List (Except Server.ConnectError (Option Http.Response)) × List Log.Event
  | [] => ([], [])
  | request :: rest =>
      let (reply, events) := host.request network watch port request
      let (replies, more) := serve host network watch port rest
      (reply :: replies, events ++ more)

/-- Runs the program with a log filter: it serves the requests and is then told to stop. -/
def runWith (filter : Log.Filter) (s : Surroundings) (watch : Service.Stopwatch)
    (requests : List Http.Request) : Run :=
  let opening := openLog s
  let leave (exit : Exit) (events : List Log.Event)
      (replies : List (Except Server.ConnectError (Option Http.Response))) : Run :=
    { exit, filter, events := opening.events ++ events, replies, files := opening.files,
      sink := opening.sink }
  if opening.overflow then leave .panic [] []
  else
    match s.host.start (Settings.port s.environment) s.picked with
    | (.error e, _, events) => leave .failure (events ++ [startFailed e]) []
    | (.ok handle, host, events) =>
        let (replies, served) := serve host s.network watch handle.port requests
        let (_, ended) := host.stop handle
        leave .success (events ++ served ++ [signalled] ++ ended) replies

/-- Runs the program. -/
def run (s : Surroundings) (watch : Service.Stopwatch) (requests : List Http.Request) : Run :=
  match Log.Filter.ofSetting? (Settings.logFilter s.environment) with
  | some filter => runWith filter s watch requests
  | none =>
      { exit := .panic, filter := ⟨[]⟩, events := [], replies := [], files := s.files,
        sink := none }

/-! ## Written logs -/

namespace Run

/-- The layout of standard output. -/
def printedLayout (env : Environment) (l : Log.Layout) : Log.Layout :=
  { l with coloured := Settings.coloured env, colouredSpans := Settings.coloured env }

/-- The layout of the log file: plain, but for the fields of spans, which are formatted once
for both places. -/
def filedLayout (env : Environment) (l : Log.Layout) : Log.Layout :=
  { l with coloured := false, colouredSpans := Settings.coloured env }

/-- The events that the filter lets through. -/
def logged (r : Run) : List Log.Event := r.filter.apply r.events

/-- The lines on standard output. -/
def printed (r : Run) (env : Environment) (l : Log.Layout) : List String :=
  (printedLayout env l).lines r.logged

/-- The files at the end, with the log written to its file. -/
def filed (r : Run) (env : Environment) (l : Log.Layout) (now : Moment) : Files.Tree :=
  match r.sink with
  | none => r.files
  | some sink => sink.append r.files now ((filedLayout env l).log r.logged)

end Run

end ShipTelemetry.Program
