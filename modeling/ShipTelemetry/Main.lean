import ShipTelemetry.Log.Layout
import ShipTelemetry.Service.Router
import ShipTelemetry.Settings
import ShipTelemetry.Uri

/-!
# Answering on the standard streams

Requests come in on standard input, one a line, each written as a method, a blank and a target.
The status and the body of each answer go to standard output, and the log goes to standard
error.  The variables that set the log filter and its colours are those of the service.  Without
a filter that can be read to the end nothing is answered.
-/

namespace ShipTelemetry

/-- The request that a line asks for. -/
def Http.Request.ofLine? (line : String) : Option Http.Request :=
  match line.toList.splitOn ' ' with
  | [name, target] =>
      match Http.Method.ofName? (String.ofList name), Uri.read? (String.ofList target) with
      | some method, .ok uri => some { method, uri }
      | _, _ => none
  | _ => none

/-- The variables that set up the log. -/
def readEnvironment : IO Environment := do
  let mut found := []
  for name in ["RUST_LOG", "NO_COLOR"] do
    if let some value ← IO.getEnv name then
      found := (name, value.toUTF8.toList) :: found
  return ⟨found⟩

/-- Everything that can be read from a stream. -/
partial def readAll (stream : IO.FS.Stream) (before : String) : IO String := do
  let line ← stream.getLine
  if line.isEmpty then return before else readAll stream (before ++ line)

end ShipTelemetry

open ShipTelemetry in
/-- Answers the requests on the standard streams. -/
def main : IO UInt32 := do
  let env ← readEnvironment
  let some filter := Log.Filter.ofSetting? (Settings.logFilter env) | return 101
  let text ← readAll (← IO.getStdin) ""
  let started ← IO.monoMsNow
  let coloured := Settings.coloured env
  let layout : Log.Layout :=
    { coloured, colouredSpans := coloured, time := Decimal.text started, millis := Decimal.text,
      port := Decimal.text }
  for request in (Text.lines text).filterMap Http.Request.ofLine? do
    let (response, events) := Service.Exchange.run 1 (Service.router.handle (fun _ => 0) request)
    if let some response := response then
      (← IO.getStdout).putStrLn (response.status.display ++ " " ++ response.body)
    (← IO.getStderr).putStr (layout.log (filter.apply events))
  return 0
