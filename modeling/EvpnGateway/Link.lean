import EvpnGateway.Net.IpPrefix
import EvpnGateway.Net.Mac
import EvpnGateway.Net.Segment
/-!
# Links and routing instances

What the gateway asks of the kernel and of the routing daemon.

* `LinkKind`, `LinkSpec`: a link to create; `LiveLink`: a link as the kernel reports it;
* `Tagging`: how a port carries a VLAN; `VrfRouting`: a VRF as the routing daemon sees it.
-/

namespace EvpnGateway

/-- The UDP port of VXLAN. -/
def vxlanPort : UInt16 := 4789

/-- The kind of a link and what belongs to it. -/
inductive LinkKind where
  /-- A VRF device bound to a routing table. -/
  | vrf (table : UInt32)
  | bridge (vlanFiltering : Bool)
  /-- A VXLAN tunnel, with the local address if one is fixed. -/
  | vxlan (vni : Vni) (localAddress : Option IpAddress) (port : UInt16)
  /-- A device that stands for a port. -/
  | dummy
  deriving DecidableEq, Repr

/-- The name of a kind of link. -/
def LinkKind.word : LinkKind → String
  | vrf _ => "vrf"
  | bridge _ => "bridge"
  | vxlan .. => "vxlan"
  | dummy => "dummy"

/-- A link to create; links are always brought up. -/
structure LinkSpec where
  name : String
  kind : LinkKind
  address : Option MacAddress := none
  /-- The link to which the new one belongs. -/
  master : Option String := none
  deriving DecidableEq, Repr

/-- A link as the kernel reports it. -/
structure LiveLink where
  name : String
  index : UInt32 := 0
  kind : Option String := none
  mtu : UInt32 := 0
  address : Option MacAddress := none
  operState : String := ""
  deriving DecidableEq, Repr

/-- How a member of a bridge carries a VLAN. -/
inductive Tagging where
  | tagged
  | untagged
  deriving DecidableEq, Repr

/-- A VRF as the routing daemon sees it. -/
structure VrfRouting where
  name : String
  vni : Option Vni
  localAs : UInt32
  routerId : Option IpAddress
  deriving DecidableEq, Repr

end EvpnGateway
