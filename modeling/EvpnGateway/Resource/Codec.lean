import EvpnGateway.Json.Record
import EvpnGateway.Json.Value
import EvpnGateway.Resource.Types
/-!
# Resources in JSON

* `ToJson`, `FromJson`: the written form of a type and its reader;
* instances for network values, resources, their parts, and the requests and answers about them.

An optional field of a specification is left out where it is none; all else is always written.
-/

namespace EvpnGateway

open Json (Fields Reader)

/-- Types with a written form in JSON. -/
class ToJson (α : Type) where
  toJson : α → Json

/-- Types with a reader for JSON. -/
class FromJson (α : Type) where
  reader : Reader α

export ToJson (toJson)

/-- The value that a text holds in JSON. -/
def fromJson (α : Type) [FromJson α] (source : String) : Except Json.Failure α :=
  Json.decode FromJson.reader source

/-! ## Network values -/

instance : ToJson MacAddress := ⟨fun mac => .string mac.text⟩
instance : FromJson MacAddress := ⟨.refine .text MacAddress.parse⟩

instance : ToJson IpPrefix := ⟨fun value => .string value.text⟩
instance : FromJson IpPrefix := ⟨.refine .text IpPrefix.parse⟩

instance : ToJson VlanId := ⟨fun vlan => .number vlan.number⟩
instance : FromJson VlanId := ⟨.refine (.natural 16) VlanId.make⟩

instance : ToJson Vni := ⟨fun vni => .number vni.number⟩
instance : FromJson Vni := ⟨.refine (.natural 32) Vni.make⟩

/-- A number of 32 bits. -/
def readWord : Reader UInt32 := UInt32.ofNat <$> Reader.natural 32

/-! ## Fields -/

/-- A field that has to be there. -/
def required {α : Type} (name : String) (read : Reader α) : Json.Field α := ⟨name, read, none⟩

/-- A field that may be missing. -/
def defaulted {α : Type} (name : String) (read : Reader α) (value : α) : Json.Field α :=
  ⟨name, read, some value⟩

/-- A field that may be missing or null. -/
def perhaps {α : Type} (name : String) (read : Reader α) : Json.Field (Option α) :=
  ⟨name, .optional read, some none⟩

/-- The member of an optional field, left out where there is no value. -/
def member? {α : Type} [ToJson α] (name : String) : Option α → List (String × Json)
  | some value => [(name, toJson value)]
  | none => []

/-! ## VRFs -/

instance : ToJson VrfSpec := ⟨fun spec => .object <|
  member? "vni" spec.vni ++ member? "loopback_ip_prefix" spec.loopback ++
    member? "vtep_ip_prefix" spec.vtep⟩

instance : FromJson VrfSpec := ⟨.record "a VRF specification"
  (.cons (perhaps "vni" FromJson.reader)
  (.cons (perhaps "loopback_ip_prefix" FromJson.reader)
  (.cons (perhaps "vtep_ip_prefix" FromJson.reader) .nil)))
  fun (vni, loopback, vtep, _) => { vni, loopback, vtep }⟩

instance : ToJson VrfStatus := ⟨fun status => .object
  [("local_as", .number status.localAs.toNat), ("routing_table", .number status.routingTable.toNat),
    ("rmac", toJson status.routerMac)]⟩

instance : FromJson VrfStatus := ⟨.record "a VRF status"
  (.cons (required "local_as" readWord)
  (.cons (required "routing_table" readWord)
  (.cons (required "rmac" FromJson.reader) .nil)))
  fun (localAs, routingTable, routerMac, _) => { localAs, routingTable, routerMac }⟩

instance : ToJson Vrf := ⟨fun vrf => .object
  [("name", .string vrf.name), ("spec", toJson vrf.spec), ("status", toJson vrf.status)]⟩

instance : FromJson Vrf := ⟨.record "a VRF"
  (.cons (defaulted "name" .text "")
  (.cons (defaulted "spec" FromJson.reader {})
  (.cons (defaulted "status" FromJson.reader {}) .nil)))
  fun (name, spec, status, _) => { name, spec, status }⟩

/-! ## Logical bridges -/

/-- The name of an operational status. -/
def OperStatus.text : OperStatus → String
  | unspecified => "UNSPECIFIED"
  | up => "UP"
  | down => "DOWN"

instance : ToJson OperStatus := ⟨fun status => .string status.text⟩
instance : FromJson OperStatus :=
  ⟨.alternative ([.unspecified, .up, .down].map fun status => (OperStatus.text status, status))⟩

/-- The status of a bridge or port, an object with one member. -/
def statusJson (status : OperStatus) : Json := .object [("oper_status", toJson status)]

/-- Reads the status of a bridge or port. -/
def readStatus (title : String) : Reader OperStatus :=
  .record title (.cons (required "oper_status" FromJson.reader) .nil) fun (status, _) => status

instance : ToJson LogicalBridgeSpec := ⟨fun spec => .object <|
  member? "vni" spec.vni ++ [("vlan_id", toJson spec.vlan)]⟩

instance : FromJson LogicalBridgeSpec := ⟨.record "a bridge specification"
  (.cons (perhaps "vni" FromJson.reader) (.cons (required "vlan_id" FromJson.reader) .nil))
  fun (vni, vlan, _) => { vni, vlan }⟩

instance : ToJson LogicalBridge := ⟨fun bridge => .object
  [("name", .string bridge.name), ("spec", toJson bridge.spec),
    ("status", statusJson bridge.status)]⟩

instance : FromJson LogicalBridge := ⟨.record "a logical bridge"
  (.cons (defaulted "name" .text "")
  (.cons (required "spec" FromJson.reader)
  (.cons (defaulted "status" (readStatus "a bridge status") .unspecified) .nil)))
  fun (name, spec, status, _) => { name, spec, status }⟩

/-! ## Bridge ports -/

/-- The name of a port type. -/
def PortType.text : PortType → String
  | unspecified => "UNSPECIFIED"
  | access => "ACCESS"
  | trunk => "TRUNK"

instance : ToJson PortType := ⟨fun type => .string type.text⟩
instance : FromJson PortType :=
  ⟨.alternative ([.unspecified, .access, .trunk].map fun type => (PortType.text type, type))⟩

instance : ToJson BridgePortSpec := ⟨fun spec => .object
  [("mac_address", toJson spec.mac), ("ptype", toJson spec.type),
    ("logical_bridges", .array (spec.bridges.map .string))]⟩

instance : FromJson BridgePortSpec := ⟨.record "a port specification"
  (.cons (required "mac_address" FromJson.reader)
  (.cons (defaulted "ptype" FromJson.reader .unspecified)
  (.cons (defaulted "logical_bridges" (.listOf .text) []) .nil)))
  fun (mac, type, bridges, _) => { mac, type, bridges }⟩

instance : ToJson BridgePort := ⟨fun port => .object
  [("name", .string port.name), ("spec", toJson port.spec), ("status", statusJson port.status)]⟩

instance : FromJson BridgePort := ⟨.record "a bridge port"
  (.cons (defaulted "name" .text "")
  (.cons (required "spec" FromJson.reader)
  (.cons (defaulted "status" (readStatus "a port status") .unspecified) .nil)))
  fun (name, spec, status, _) => { name, spec, status }⟩

/-! ## Requests and answers -/

instance : FromJson DeleteRequest := ⟨.record "a request to delete"
  (.cons (defaulted "name" .text "") (.cons (defaulted "allow_missing" .boolean false) .nil))
  fun (name, allowMissing, _) => { name, allowMissing }⟩

instance : FromJson ListRequest := ⟨.record "a request for a page"
  (.cons (defaulted "page_size" (.integer 32) 0) (.cons (defaulted "page_token" .text "") .nil))
  fun (pageSize, pageToken, _) => { pageSize, pageToken }⟩

instance {α : Type} [ToJson α] : ToJson (Listing α) := ⟨fun listing => .object
  [("items", .array (listing.items.map toJson)), ("next_page_token", .string listing.nextToken)]⟩

instance {α : Type} [FromJson α] : FromJson (Listing α) := ⟨.record "a page"
  (.cons (required "items" (.listOf FromJson.reader)) <|
    .cons (required "next_page_token" .text) .nil)
  fun (items, nextToken, _) => { items, nextToken }⟩

end EvpnGateway
