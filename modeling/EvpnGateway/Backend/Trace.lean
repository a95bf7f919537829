import EvpnGateway.Backend.Call
import EvpnGateway.Backend.Simulation
/-!
# Calls in words

* `Call.trace`: a call on one line, as a log of the backends shows it.
-/

namespace EvpnGateway

/-- A value, or a hyphen where there is none. -/
def orHyphen {α : Type} [ToString α] : Option α → String
  | some value => toString value
  | none => "-"

/-- A kind of link with its attributes. -/
def LinkKind.trace : LinkKind → String
  | vrf table => "vrf(table=" ++ toString table.toNat ++ ")"
  | bridge vlanFiltering => "bridge(vlan_filtering=" ++ toString vlanFiltering ++ ")"
  | vxlan vni localAddress port =>
    "vxlan(vni=" ++ toString vni ++ ",local=" ++ orHyphen localAddress ++ ",dstport=" ++
      toString port.toNat ++ ")"
  | dummy => "dummy"

/-- A routing instance with its attributes. -/
def VrfRouting.trace (vrf : VrfRouting) : String :=
  vrf.name ++ " vni=" ++ orHyphen vrf.vni ++ " as=" ++ toString vrf.localAs.toNat ++
    " router_id=" ++ orHyphen vrf.routerId

/-- A call on one line. -/
def Call.trace (call : Call) : String :=
  let target (onBridge : Bool) : String := if onBridge then " self" else ""
  call.word ++ " " ++ match call with
    | linkAdd spec =>
      spec.name ++ " " ++ spec.kind.trace ++ " address=" ++ orHyphen spec.address ++ " master=" ++
        orHyphen spec.master
    | linkDel name | linkByName name => name
    | linkModify link =>
      link.name ++ " ifindex=" ++ toString link.index.toNat ++ " kind=" ++ orHyphen link.kind ++
        " mtu=" ++ toString link.mtu.toNat ++ " address=" ++ orHyphen link.address ++ " state=" ++
        link.operState
    | addressAdd name address => name ++ " " ++ address.text
    | vlanAdd device vlan tagging onBridge =>
      let mode := match tagging with
        | .tagged => "tagged"
        | .untagged => "untagged"
      device ++ " " ++ toString vlan ++ " " ++ mode ++ target onBridge
    | vlanDel device vlan onBridge => device ++ " " ++ toString vlan ++ target onBridge
    | applyVrf vrf | removeVrf vrf => vrf.trace

end EvpnGateway
