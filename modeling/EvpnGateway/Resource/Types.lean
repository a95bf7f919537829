import EvpnGateway.Net.IpPrefix
import EvpnGateway.Net.Mac
import EvpnGateway.Net.Segment
/-!
# Resources

Every resource has a name, a specification that its owner gives and a status that the gateway
computes.

* `Vrf`, `LogicalBridge`, `BridgePort`, and `Named` for what they have in common;
* `Kind`: the three kinds and their collections; `routingTable`: the table of a VRF;
* `DeleteRequest`, `ListRequest`, `Listing`: requests and answers common to all kinds.
-/

namespace EvpnGateway

/-- The longest name that an interface can have, in bytes. -/
def interfaceNameLimit : Nat := 15

/-- The AS number of gateways that are not told another. -/
def defaultLocalAs : UInt32 := 4

/-- The name of the bridge that carries all logical bridges, unless another is chosen. -/
def defaultTenantBridge : String := "br-tenant"

/-- What is stored under a name. -/
class Named (α : Type) where
  name : α → String

/-- The kinds of resources. -/
inductive Kind where
  | vrf
  | bridge
  | port
  deriving DecidableEq, Repr

/-- The collection that the names of a kind begin with. -/
def Kind.collection : Kind → String
  | vrf => "vrfs"
  | bridge => "bridges"
  | port => "ports"

/-! ## VRFs -/

/-- What the owner of a VRF asks for. -/
structure VrfSpec where
  /-- The segment that attaches the VRF to the fabric. -/
  vni : Option Vni := none
  /-- The address of the VRF device, also its router id. -/
  loopback : Option IpPrefix := none
  /-- The local end of the VXLAN tunnel. -/
  vtep : Option IpPrefix := none
  deriving DecidableEq, Repr

/-- What the gateway reports of a VRF. -/
structure VrfStatus where
  localAs : UInt32 := 0
  routingTable : UInt32 := 0
  routerMac : MacAddress := .zero
  deriving DecidableEq, Repr

/-- A virtual routing and forwarding domain. -/
structure Vrf where
  name : String := ""
  spec : VrfSpec := {}
  status : VrfStatus := {}
  deriving DecidableEq, Repr

instance : Named Vrf := ⟨Vrf.name⟩

/-- The routing table of a VRF: 1001 and the last digit of its VNI, or 1000 without one. VRFs with
the same last digit share a table. -/
def routingTable : Option Vni → UInt32
  | some vni => 1001 + UInt32.ofNat (vni.number % 10)
  | none => 1000

theorem toNat_routingTable_some (vni : Vni) :
    (routingTable (some vni)).toNat = 1001 + vni.number % 10 := by
  have := Nat.mod_lt vni.number (by decide : 0 < 10)
  simp only [routingTable, UInt32.toNat_add, UInt32.toNat_ofNat']
  rw [show (1001 : UInt32).toNat = 1001 from rfl]
  omega

/-! ## Logical bridges -/

/-- Whether a bridge or port is in operation. -/
inductive OperStatus where
  | unspecified
  | up
  | down
  deriving DecidableEq, Repr

/-- What the owner of a logical bridge asks for. -/
structure LogicalBridgeSpec where
  /-- The segment that stretches the bridge over the fabric. -/
  vni : Option Vni := none
  vlan : VlanId
  deriving DecidableEq, Repr

/-- A broadcast domain: a VLAN of the tenant bridge. -/
structure LogicalBridge where
  name : String := ""
  spec : LogicalBridgeSpec
  status : OperStatus := .unspecified
  deriving DecidableEq, Repr

instance : Named LogicalBridge := ⟨LogicalBridge.name⟩

/-- Two bridges that cannot live beside each other: one VLAN or one segment for both. -/
def LogicalBridgeSpec.overlaps (one other : LogicalBridgeSpec) : Bool :=
  one.vlan == other.vlan || (one.vni.isSome && one.vni == other.vni)

/-! ## Bridge ports -/

/-- How a port carries its VLANs: one of them untagged, or any number of them tagged. -/
inductive PortType where
  | unspecified
  | access
  | trunk
  deriving DecidableEq, Repr

/-- What the owner of a port asks for. -/
structure BridgePortSpec where
  mac : MacAddress
  type : PortType := .unspecified
  /-- Names of the logical bridges to join, in this order. -/
  bridges : List String := []
  deriving DecidableEq, Repr

/-- A port of the tenant bridge. -/
structure BridgePort where
  name : String := ""
  spec : BridgePortSpec
  status : OperStatus := .unspecified
  deriving DecidableEq, Repr

instance : Named BridgePort := ⟨BridgePort.name⟩

/-! ## Requests -/

/-- A request to delete a resource. -/
structure DeleteRequest where
  name : String := ""
  /-- Deleting what does not exist succeeds. -/
  allowMissing : Bool := false
  deriving DecidableEq, Repr

/-- A request for a page of a listing. -/
structure ListRequest where
  /-- The longest page; zero leaves the choice to the gateway. -/
  pageSize : Int := 0
  /-- Where to continue; the empty token begins anew. -/
  pageToken : String := ""
  deriving DecidableEq, Repr

/-- A page of a listing and the token of the next, empty at the end. -/
structure Listing (α : Type) where
  items : List α
  nextToken : String
  deriving DecidableEq, Repr

end EvpnGateway
