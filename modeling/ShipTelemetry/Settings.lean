import ShipTelemetry.Decimal
import ShipTelemetry.Text.Basic

/-!
# Settings

The service is set up by environment variables.  A variable holds bytes; a setting that is
no UTF-8 counts as unset.  A numeric setting is a numeral, with blanks around it allowed,
and has a default that stands in whenever it cannot be read.
-/

namespace ShipTelemetry

/-- The variables that are set, with their bytes; the first of a name counts. -/
structure Environment where
  bindings : List (String × List UInt8)
deriving DecidableEq, Repr

namespace Environment

/-- The bytes of a variable. -/
def bytes? (env : Environment) (name : String) : Option (List UInt8) :=
  (env.bindings.find? fun v => v.1 = name).map Prod.snd

/-- The text of a variable. -/
def text? (env : Environment) (name : String) : Option String :=
  ((env.bytes? name).bind Text.Utf8.decode?).map String.ofList

/-- The number in a variable, at most `limit`; otherwise the default. -/
def number (env : Environment) (name : String) (limit default : Nat) : Nat :=
  match env.text? name with
  | none => default
  | some text =>
      match Decimal.readNumeral limit (Text.trim text.toList) with
      | .ok n => n
      | .error _ => default

end Environment

namespace Settings

/-- The greatest number of 16 bits. -/
def maxPort : Nat := UInt16.size - 1

/-- The greatest number of 64 bits. -/
def maxCount : Nat := UInt64.size - 1

/-- The port to listen on. -/
def port (env : Environment) : Nat := env.number "PORT" maxPort 8080

/-- How many days logs are kept. -/
def retentionDays (env : Environment) : Nat := env.number "LOG_RETENTION_DAYS" maxCount 14

/-- How many minutes pass between two sweeps. -/
def cleanupMinutes (env : Environment) : Nat :=
  env.number "LOG_CLEANUP_INTERVAL_MINUTES" maxCount 360

/-- The directory that holds the logs of all services. -/
def logDirectory (env : Environment) : String := (env.text? "LOG_DIR").getD "/var/log/asteria"

/-- The directives of the log filter. -/
def logFilter (env : Environment) : Option String := env.text? "RUST_LOG"

/-- Standard output is coloured unless a variable asks for the contrary. -/
def coloured (env : Environment) : Bool :=
  match env.text? "NO_COLOR" with
  | none => true
  | some value => value = ""

end Settings

end ShipTelemetry
