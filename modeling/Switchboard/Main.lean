import Switchboard.Catalog.Demo

/-!
# The command line

Runs the demonstration with the variables of the environment and writes its
log lines. The exit code is 0, or 1 if the run ended with an error. Log lines
are chosen by their level only: a filter that names no level is refused, with
exit code 2.
-/

namespace Switchboard

/-- One event as one line. -/
def logLine (e : Event) : String :=
  let spans := e.spans.map fun s => s.name ++ ": "
  let headline := e.headline.map (· ++ " ")
  let fields := e.fields.map fun f => " " ++ f.1 ++ "=" ++ f.2
  e.level.name ++ " " ++ String.join spans ++ headline.getD "" ++ e.message ++ String.join fields

end Switchboard

open Switchboard Catalog in
def main : IO UInt32 := do
  let limit ← IO.getEnv Config.limitKey
  let strategy ← IO.getEnv Config.strategyKey
  let word ← IO.getEnv "RUST_LOG"
  if let some text := word then
    if (Demo.level? text).isNone then
      IO.eprintln ("RUST_LOG names no level: " ++ text)
      return 2
  let transcript := Demo.run fun key =>
    if key = Config.limitKey then limit
    else if key = Config.strategyKey then strategy
    else none
  for e in transcript.logged (Demo.threshold word) do
    IO.println (logLine e)
  IO.eprint transcript.stderr
  return transcript.exitCode
