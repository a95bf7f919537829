import EvpnGateway.Config
import EvpnGateway.Gateway.TenantBridge
import EvpnGateway.Startup.Arguments
import EvpnGateway.Startup.LogFilter
/-!
# Launching the daemon

From arguments and a configuration file to a gateway: the file is loaded and checked, the arguments
override it, the result is checked again, logging is set up, and the tenant bridge is made sure of.
No command runs before all that is in order.

* `Overrides.apply`: a configuration under the arguments;
* `StartupError`: why the daemon does not come up;
* `prepare`: the configuration and the log filter that are in force; `launch`: the whole.
-/

namespace EvpnGateway

/-- Where the arguments say that the configuration is. -/
def Overrides.path (overrides : Overrides) : String := overrides.configPath.getD defaultConfigPath

/-- The configuration under the arguments: what they leave open is as the configuration has it. -/
def Overrides.apply (overrides : Overrides) (config : Config) : Config where
  listen := overrides.listen.getD config.listen
  settings := {
    localAs := overrides.localAs.getD config.settings.localAs
    tenantBridge := overrides.tenantBridge.getD config.settings.tenantBridge
    vtepIp := overrides.vtepIp <|> config.settings.vtepIp }
  logLevel := overrides.logLevel.getD config.logLevel
  logJson := config.logJson || overrides.logJson

/-! ## Errors -/

/-- Why the daemon does not come up. -/
inductive StartupError where
  /-- The configuration file cannot be used. -/
  | loading (path : String) (cause : GatewayError)
  /-- The log level is no filter. -/
  | logLevel (text : String)
  /-- The configuration in force is at fault, or the tenant bridge could not be made sure of. -/
  | gateway (cause : GatewayError)
  deriving DecidableEq, Repr

namespace StartupError

/-- The wording of the error itself. -/
def message : StartupError → String
  | loading path _ => "loading " ++ path
  | logLevel text => "invalid log level " ++ quoted text
  | gateway cause => cause.message

/-- The causes behind the error, each the cause of the one before. -/
def causes : StartupError → List String
  | loading _ cause => [cause.message]
  | gateway (.commandNotStarted _ reason) => [reason]
  | logLevel _ | gateway _ => []

/-- The report on standard error. -/
def report (error : StartupError) : List String :=
  ("Error: " ++ error.message) ::
    if error.causes.isEmpty then [] else "Caused by:" :: error.causes

end StartupError

/-! ## Log records -/

/-- The target of the records that the launch itself writes. -/
def launchTarget : String := "evpngwd"

/-- A record in the log. -/
structure LogRecord where
  level : LogLevel
  message : String
  deriving DecidableEq, Repr

/-- A character as it stands in a log that is no JSON: what could command a terminal is spelled
out. -/
def logChar (c : Char) : List Char :=
  let n := c.toNat
  if n = 0x1b ∨ n = 0x07 ∨ n = 0x08 ∨ n = 0x0c ∨ n = 0x7f then
    ['\\', 'x'] ++ Digits.padded 2 16 n
  else if 0x80 ≤ n ∧ n ≤ 0x9f then ['\\', 'u', '\x7b'] ++ Digits.numeral 16 n ++ ['\x7d']
  else [c]

/-- The message as a log that is no JSON shows it. -/
def LogRecord.plainMessage (record : LogRecord) : String :=
  String.ofList (record.message.toList.flatMap logChar)

/-- The records about a configuration that comes into force. -/
def Config.announcements (config : Config) : List LogRecord :=
  let address := match config.settings.vtepIp with
    | some address => ["VTEP address: " ++ address.text]
    | none => []
  (["Starting evpngwd", "Local AS: " ++ toString config.settings.localAs.toNat,
    "Tenant bridge: " ++ config.settings.tenantBridge] ++ address).map (⟨.info, ·⟩)

/-! ## The launch -/

/-- The configuration and the log filter that are in force. -/
def prepare (overrides : Overrides) (file : FileContent) (environment : Option String := none) :
    Except StartupError (Config × LogFilter) := do
  let loaded ← (Config.loadOrDefault overrides.path file).mapError (.loading overrides.path)
  let config := overrides.apply loaded
  config.check.mapError .gateway
  match LogFilter.inForce? environment config.logLevel with
  | some filter => return (config, filter)
  | none => throw (.logLevel config.logLevel)

/-- What a launch comes to. -/
structure Launch where
  /-- The log is written in JSON. -/
  json : Bool := false
  /-- The records that pass the filter. -/
  records : List LogRecord := []
  gateway : Except StartupError Gateway

/-- Launches the daemon up to the point where it would serve requests. The environment may hold a
log filter of its own. -/
def launch (overrides : Overrides) (file : FileContent) (environment : Option String := none) :
    Plan Launch :=
  match prepare overrides file environment with
  | .error error => return { gateway := .error error }
  | .ok (config, filter) => do
    let records := config.announcements.filter fun record =>
      filter.admits record.level launchTarget
    let outcome ← (ensureTenantBridge config.settings.tenantBridge).plan
    return {
      json := config.logJson
      records
      gateway := match outcome with
        | .ok () => .ok { settings := config.settings }
        | .error error => .error (.gateway error) }

/-- The version of the daemon. -/
def versionText : String := "evpngwd 0.1.0"

/-- The options in short. -/
def helpText : String := "\n".intercalate [
  "EVPN gateway control-plane daemon", "",
  "Usage: evpngwd [OPTIONS]", "",
  "Options:",
  "  -c, --config <CONFIG>                Configuration file",
  "  -l, --listen <LISTEN>                API listen address",
  "      --local-as <LOCAL_AS>            Local AS for per-VRF BGP instances",
  "      --tenant-bridge <TENANT_BRIDGE>  VLAN-aware bridge carrying all logical bridges",
  "      --vtep-ip <VTEP_IP>              Local VTEP address for VXLAN devices",
  "      --log-level <LOG_LEVEL>          Log level (trace, debug, info, warn, error)",
  "      --log-json                       Emit logs as JSON lines",
  "  -h, --help                           Print help",
  "  -V, --version                        Print version"]

end EvpnGateway
