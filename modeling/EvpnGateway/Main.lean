import EvpnGateway.Backend.Tools
import EvpnGateway.Json.Value
import EvpnGateway.Shell.Script
import EvpnGateway.Startup.Launch
/-!
# The command line

* `main`: launches the daemon on a host without the tools for links, where every launch ends at the
  tenant bridge at the latest.
-/

namespace EvpnGateway

/-- What is found under a path on this host. -/
def readPath (path : String) : IO FileContent := do
  try
    return .bytes (← IO.FS.readBinFile path).toList
  catch
    | .noFileOrDirectory .. => return .absent
    | _ => return .directory

/-- A record as a line of the log. -/
def LogRecord.line (json : Bool) (record : LogRecord) : String :=
  if json then
    (Json.object [("level", .string record.level.text),
      ("fields", .object [("message", .string record.message)]),
      ("target", .string launchTarget)]).render
  else record.level.text ++ " " ++ launchTarget ++ ": " ++ record.plainMessage

end EvpnGateway

open EvpnGateway in
/-- Launches the daemon and reports how that went. -/
def main (arguments : List String) : IO UInt32 := do
  match parseArguments arguments with
  | none =>
    IO.eprintln "error: invalid arguments; for more information, try '--help'."
    return 2
  | some .help =>
    IO.println helpText
    return 0
  | some .version =>
    IO.println versionText
    return 0
  | some (.run overrides) =>
    let file ← readPath overrides.path
    let environment ← IO.getEnv "RUST_LOG"
    let launched :=
      ((launch overrides file environment).run (Tools.backends missingTools) ((), [])).result
    for record in launched.records do
      IO.println (record.line launched.json)
    match launched.gateway with
    | .ok _ => return 0
    | .error error =>
      for line in error.report do
        IO.eprintln line
      return 1
