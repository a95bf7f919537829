import EvpnGateway.Gateway.State
import EvpnGateway.Net.SocketAddress
import EvpnGateway.Shell.OsError
import EvpnGateway.Text.Quoted
import EvpnGateway.Toml.Document
/-!
# Configuration

* `Config`: where to listen, the settings of the gateway, and what to log;
* `Config.parse`: a configuration in TOML, checked; `Config.check`: the checks;
* `FileContent`, `Config.load`, `Config.loadOrDefault`: the configuration in a file.
-/

namespace EvpnGateway

/-- The configuration of the daemon. -/
structure Config where
  listen : SocketAddress := .v4 ⟨127, 0, 0, 1⟩ 8080
  settings : Settings := {}
  /-- What is logged, in the language of log filters. -/
  logLevel : String := "info"
  /-- Log records are written in JSON. -/
  logJson : Bool := false
  deriving DecidableEq, Repr

namespace Config

/-! ## Checks -/

/-- A name that an interface can have. -/
def isInterfaceName (name : String) : Bool :=
  !name.isEmpty && decide (Utf8.size name ≤ interfaceNameLimit) &&
    !name.toList.any fun c => c = '/' || c = ' '

/-- A configuration has an AS number and a name for the tenant bridge. -/
def check (config : Config) : Except GatewayError Unit :=
  if config.settings.localAs = 0 then .error (.config "evpn.local_as" "must be > 0")
  else if isInterfaceName config.settings.tenantBridge then .ok ()
  else .error (.config "evpn.tenant_bridge"
    (quoted config.settings.tenantBridge ++ " is not a valid interface name"))

/-! ## Sections -/

open Toml (Entries Value)

/-- A field of a section, by name in a table and by position in an array. A date has no fields. -/
def member? (title : String) (value : Value) (name : String) (position : Nat) :
    Except Toml.Fault (Option Value) :=
  match value with
  | .table _ entries => .ok (entries.lookup name)
  | .tables items => .ok (items[position]?.map (.table .header))
  | .array items => .ok items[position]?
  | .date => .ok none
  | _ => .error (.mismatch title "table")

/-- The value of a field, or the one that it has where it is missing. -/
def field {α : Type} (title : String) (value : Value) (name : String) (position : Nat)
    (wanted : String) (absent : α) (read : Value → Option α) : Except Toml.Fault α := do
  match ← member? title value name position with
  | none => return absent
  | some found =>
    match read found with
    | some value => return value
    | none => throw (.mismatch name wanted)

/-- The text that a value is. -/
def text? : Value → Option String
  | .string text => some text
  | _ => none

/-- The truth value that a value is. -/
def flag? : Value → Option Bool
  | .boolean value => some value
  | _ => none

/-- The number of 32 bits that a value is. -/
def word? : Value → Option UInt32
  | .integer n => if 0 ≤ n ∧ n < 0x100000000 then some (UInt32.ofNat n.toNat) else none
  | _ => none

/-- The section of a name; one that is missing has no fields. -/
def sectionOf (entries : Entries) (name : String) : Value :=
  (entries.lookup name).getD (.table .implied [])

/-- The configuration that the entries of a document make; other entries do not count. -/
def ofEntries (entries : Entries) : Except Toml.Fault Config := do
  let initial : Config := {}
  let server := sectionOf entries "server"
  let listen ← field "server" server "listen_addr" 0 "socket address" initial.listen fun value =>
    (text? value).bind SocketAddress.parse?
  let evpn := sectionOf entries "evpn"
  let localAs ← field "evpn" evpn "local_as" 0 "number of 32 bits" initial.settings.localAs word?
  let tenantBridge ←
    field "evpn" evpn "tenant_bridge" 1 "string" initial.settings.tenantBridge text?
  let vtepIp ← field "evpn" evpn "vtep_ip" 2 "IP address" none fun value =>
    ((text? value).bind IpAddress.parse?).map some
  let logging := sectionOf entries "logging"
  let logLevel ← field "logging" logging "level" 0 "string" initial.logLevel text?
  let logJson ← field "logging" logging "json" 1 "boolean" initial.logJson flag?
  return { listen, settings := { localAs, tenantBridge, vtepIp }, logLevel, logJson }

/-! ## Files -/

/-- The configuration that a text writes, if it passes the checks. -/
def parse (source : String) : Except GatewayError Config := do
  match (Toml.parse source).bind ofEntries with
  | .error fault => throw (.configFormat fault.message)
  | .ok config =>
    config.check
    return config

end Config

/-- What is found under a path. -/
inductive FileContent where
  | absent
  | directory
  | bytes (content : List UInt8)
  deriving DecidableEq, Repr

/-- The text of a file, or why there is none. -/
def FileContent.text : FileContent → Except String String
  | absent => .error (osErrorText 2)
  | directory => .error (osErrorText 21)
  | bytes content =>
    match Utf8.decode? content with
    | some text => .ok text
    | none => .error "stream did not contain valid UTF-8"

namespace Config

/-- The configuration in the file at a path. -/
def load (path : String) (file : FileContent) : Except GatewayError Config :=
  match file.text with
  | .ok source => parse source
  | .error reason => .error (.config path reason)

/-- The configuration in the file at a path; where there is none, all is as it is by default. -/
def loadOrDefault (path : String) (file : FileContent) : Except GatewayError Config :=
  if file = .absent then .ok {} else load path file

end Config

end EvpnGateway
