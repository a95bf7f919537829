import EvpnGateway.Gateway.Lifecycle
/-!
# Bridge ports of a gateway

A port is a device below the tenant bridge that carries its id for a name and joins the VLAN of
every bridge that the port refers to.

* `BridgePort.realization`, `BridgePort.teardown`: the calls that set a port up and that take it
  down;
* `BridgePort.lifecycle`: how ports live;
* `Gateway.createPort`, `getPort`, `deletePort`, `listPorts`.
-/

namespace EvpnGateway

namespace BridgePort

/-- The name of the device. -/
def device (port : BridgePort) : String := shortId port.name

/-- An access port carries its VLAN untagged, a trunk port all of them tagged. -/
def tagging (port : BridgePort) : Tagging :=
  match port.spec.type with
  | .access => .untagged
  | .unspecified | .trunk => .tagged

/-- The calls that set up a port and let it join the VLANs in their order. -/
def realization (port : BridgePort) (settings : Settings) (vlans : List VlanId) : List Call :=
  .linkAdd { name := port.device, kind := .dummy, address := some port.spec.mac
             master := some settings.tenantBridge } ::
    vlans.map fun vlan => .vlanAdd port.device vlan port.tagging false

/-- The calls that take a port down. -/
def teardown (port : BridgePort) : List Call := [.linkDel port.device]

end BridgePort

/-- The VLANs of the bridges with these names, or the first name that no bridge has. -/
def Gateway.vlansOf (gateway : Gateway) : List String → Except GatewayError (List VlanId)
  | [] => .ok []
  | name :: names => do
    match gateway.bridges.get? name with
    | some bridge => return bridge.spec.vlan :: (← gateway.vlansOf names)
    | none => throw (.notFound name)

/-- The life of ports. -/
def BridgePort.lifecycle : Lifecycle BridgePort where
  kind := .port
  store := Gateway.ports
  replace gateway ports := { gateway with ports }
  realization gateway port := do
    return port.realization gateway.settings (← gateway.vlansOf port.spec.bridges)
  teardown _ port := port.teardown
  probe port := [.linkByName port.device]
  report _ port := { port with status := .up }

namespace Gateway

/-- The port that a request to create one asks for. -/
def newPort (draw : Draw) (id : String) (spec : BridgePortSpec) : BridgePort where
  name := assignName Kind.port.collection id draw.id
  spec
  status := .up

/-- Creates a port, or yields the one that has the name already. The bridges that it refers to have
to be there. -/
def createPort (draw : Draw) (id : String) (requested : BridgePort) : Action BridgePort :=
  BridgePort.lifecycle.create (checkPort id requested.spec) fun _ =>
    newPort draw id requested.spec

/-- Deletes a port with its device. -/
def deletePort (request : DeleteRequest) : Action Unit := BridgePort.lifecycle.delete request

/-- The port of a name, whose device has to be there. -/
def getPort (name : String) : Action BridgePort := BridgePort.lifecycle.look name

/-- A page of the ports in the order of their names. -/
def listPorts (draw : Draw) (request : ListRequest) : Action (Listing BridgePort) :=
  BridgePort.lifecycle.page draw request

end Gateway

end EvpnGateway
