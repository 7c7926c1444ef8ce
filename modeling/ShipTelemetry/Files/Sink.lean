import ShipTelemetry.Files.Change

/-!
# Log files

A service appends its log to one file a day, which stands in a directory of the service and
is named after the service and the date.  Both are made when they are missing.
-/

namespace ShipTelemetry.Files

/-- What stood in the way of a log file: its directory, the directory named in the file's
own name, or the file. -/
inductive SinkError
  | directory (cause : Refusal)
  | parent (cause : Refusal)
  | file (cause : Refusal)
deriving DecidableEq, Repr

/-- The wording of an error. -/
def SinkError.message : SinkError → String
  | .directory cause => cause.message
  | .parent cause => "failed to create log directory: " ++ cause.message
  | .file cause => "failed to create log file: " ++ cause.message

/-- The name of the log file of a service on a date. -/
def logName (service date : String) : String :=
  if service = "" then date ++ ".log" else service ++ "." ++ date ++ ".log"

/-- An open log file. -/
structure Sink where
  path : Path
deriving DecidableEq, Repr

namespace Sink

/-- Appends to an open log file.  Nothing at all leaves the file as it is, and so does a
file that is gone. -/
def append (s : Sink) (t : Tree) (now : Moment) (text : String) : Tree :=
  if text = "" then t else t.appendFile s.path now text

/-- Makes the log file of a service, in a directory that is there.  Directories named in the
service's name are made only when the file cannot be made without them. -/
def create (t : Tree) (path : Path) (now : Moment) : Tree × Except SinkError Sink :=
  match t.openFile path now with
  | .ok next => (next, .ok ⟨path⟩)
  | .error _ =>
      match t.makeDirectories path.above with
      | (above, .error e) => (above, .error (.parent e))
      | (above, .ok ()) =>
          match above.openFile path now with
          | .ok next => (next, .ok ⟨path⟩)
          | .error e => (above, .error (.file e))

/-- Opens the log file of a service below a directory, which is made if it is missing. -/
def start (t : Tree) (directory service date : String) (now : Moment) :
    Tree × Except SinkError Sink :=
  match t.makeDirectories (Path.ofText directory) with
  | (above, .error e) => (above, .error (.directory e))
  | (above, .ok ()) =>
      create above (Path.ofText (Path.join directory (logName service date))) now

end Sink

end ShipTelemetry.Files
