import EvpnGateway.Gateway.Lifecycle
/-!
# Logical bridges of a gateway

A logical bridge is a VLAN of the tenant bridge. With a VNI it is stretched over a VXLAN device
below the tenant bridge that carries the VLAN untagged.

* `LogicalBridge.realization`, `LogicalBridge.teardown`: the calls that set a bridge up and that
  take it down;
* `LogicalBridge.lifecycle`, `LogicalBridge.revision`: how bridges live and what an update may not
  change;
* `Gateway.createBridge`, `updateBridge`, `getBridge`, `deleteBridge`, `listBridges`.
-/

namespace EvpnGateway

namespace LogicalBridge

/-- The calls that set up a bridge. -/
def realization (bridge : LogicalBridge) (settings : Settings) : List Call :=
  let vlan := bridge.spec.vlan
  let fabric := match bridge.spec.vni with
    | some vni =>
      [Call.linkAdd { name := vni.vxlanName, kind := .vxlan vni settings.vtepIp vxlanPort
                      master := some settings.tenantBridge },
        Call.vlanAdd vni.vxlanName vlan .untagged false]
    | none => []
  .vlanAdd settings.tenantBridge vlan .tagged true :: fabric

/-- The calls that take a bridge down. -/
def teardown (bridge : LogicalBridge) (settings : Settings) : List Call :=
  let fabric := match bridge.spec.vni with
    | some vni => [Call.linkDel vni.vxlanName]
    | none => []
  fabric ++ [.vlanDel settings.tenantBridge bridge.spec.vlan true]

end LogicalBridge

/-- The VLAN and the segment of a bridge cannot be changed. -/
def checkSegmentUnchanged (stored requested : LogicalBridgeSpec) : Check :=
  if stored.vni ≠ requested.vni ∨ stored.vlan ≠ requested.vlan then refuse .segmentChanged
  else .ok ()

/-- The calls that set up a bridge, unless its VLAN or its segment is in use. -/
def Gateway.bridgeRealization (gateway : Gateway) (bridge : LogicalBridge) :
    Except GatewayError (List Call) :=
  match gateway.bridges.find? fun other => other.spec.overlaps bridge.spec with
  | some owner => refuse (.segmentTaken bridge.name bridge.spec.vlan owner.name)
  | none => .ok (bridge.realization gateway.settings)

/-- The life of bridges. Only bridges with a VNI have a device of their own. -/
def LogicalBridge.lifecycle : Lifecycle LogicalBridge where
  kind := .bridge
  store := Gateway.bridges
  replace gateway bridges := { gateway with bridges }
  realization := Gateway.bridgeRealization
  teardown settings bridge := bridge.teardown settings
  probe bridge := match bridge.spec.vni with
    | some vni => [.linkByName vni.vxlanName]
    | none => []
  report _ bridge := { bridge with status := .up }

/-- Updates of bridges. -/
def LogicalBridge.revision : Revision LogicalBridge where
  device? bridge := bridge.spec.vni.map Vni.vxlanName
  unchanged stored requested := checkSegmentUnchanged stored.spec requested.spec
  revised stored requested := { stored with spec := requested.spec }

namespace Gateway

/-- The bridge that a request to create one asks for. -/
def newBridge (draw : Draw) (id : String) (spec : LogicalBridgeSpec) : LogicalBridge where
  name := assignName Kind.bridge.collection id draw.id
  spec
  status := .up

/-- Creates a bridge, or yields the one that has the name already. Its VLAN and its segment must
not be in use. -/
def createBridge (draw : Draw) (id : String) (requested : LogicalBridge) : Action LogicalBridge :=
  LogicalBridge.lifecycle.create (checkOptionalId id) fun _ => newBridge draw id requested.spec

/-- Deletes a bridge with everything that was set up for it. -/
def deleteBridge (request : DeleteRequest) : Action Unit := LogicalBridge.lifecycle.delete request

/-- Brings the VXLAN device of a bridge into force again, where there is one; the specification has
to be the stored one. -/
def updateBridge (requested : LogicalBridge) : Action LogicalBridge :=
  LogicalBridge.lifecycle.update LogicalBridge.revision requested

/-- The bridge of a name, whose VXLAN device has to be there if it has one. -/
def getBridge (name : String) : Action LogicalBridge := LogicalBridge.lifecycle.look name

/-- A page of the bridges in the order of their names. -/
def listBridges (draw : Draw) (request : ListRequest) : Action (Listing LogicalBridge) :=
  LogicalBridge.lifecycle.page draw request

end Gateway

end EvpnGateway
