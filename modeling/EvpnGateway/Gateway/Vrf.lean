import EvpnGateway.Gateway.Lifecycle
/-!
# VRFs of a gateway

A VRF is a device that carries its id for a name. With a VNI it also has a bridge and a VXLAN
device below it, and a routing instance that announces it.

* `Vrf.realization`, `Vrf.teardown`: the calls that set a VRF up and that take it down;
* `Vrf.lifecycle`, `Vrf.revision`: how VRFs live and what an update may not change;
* `Gateway.createVrf`, `updateVrf`, `getVrf`, `deleteVrf`, `listVrfs`.
-/

namespace EvpnGateway

namespace Vrf

/-- The name of the device. -/
def device (vrf : Vrf) : String := shortId vrf.name

/-- The VRF as the routing daemon sees it. -/
def routing (vrf : Vrf) (settings : Settings) : VrfRouting where
  name := vrf.device
  vni := vrf.spec.vni
  localAs := settings.localAs
  routerId := vrf.spec.loopback.map IpPrefix.address

/-- The link calls that set up a VRF. -/
def linkCalls (vrf : Vrf) (settings : Settings) : List Call :=
  let mac := some vrf.status.routerMac
  let device := [Call.linkAdd { name := vrf.device, kind := .vrf vrf.status.routingTable
                                address := mac }]
  let loopback := match vrf.spec.loopback with
    | some address => [Call.addressAdd vrf.device address]
    | none => []
  let fabric := match vrf.spec.vni with
    | some vni =>
      let localAddress := match vrf.spec.vtep with
        | some vtep => some vtep.address
        | none => settings.vtepIp
      [Call.linkAdd { name := vni.bridgeName, kind := .bridge false, address := mac
                      master := some vrf.device },
        Call.linkAdd { name := vni.vxlanName, kind := .vxlan vni localAddress vxlanPort
                       master := some vni.bridgeName }]
    | none => []
  device ++ loopback ++ fabric

/-- The calls that set up a VRF: its links and then its routing. -/
def realization (vrf : Vrf) (settings : Settings) : List Call :=
  vrf.linkCalls settings ++ [.applyVrf (vrf.routing settings)]

/-- The calls that take a VRF down: its links from the last to the first, and then its routing. -/
def teardown (vrf : Vrf) (settings : Settings) : List Call :=
  let fabric := match vrf.spec.vni with
    | some vni => [Call.linkDel vni.vxlanName, Call.linkDel vni.bridgeName]
    | none => []
  fabric ++ [.linkDel vrf.device, .removeVrf (vrf.routing settings)]

/-- The VRF with the status that it has under the settings. -/
def reported (vrf : Vrf) (settings : Settings) : Vrf :=
  { vrf with status := { vrf.status with localAs := settings.localAs } }

end Vrf

/-- What a VRF was set up with cannot be changed any more. -/
def checkVrfUnchanged (stored requested : VrfSpec) : Check := do
  if stored.vni ≠ requested.vni then refuse (.vniChanged stored.vni requested.vni)
  if stored.loopback ≠ requested.loopback then
    refuse (.addressChanged "loopback_ip_prefix" stored.loopback requested.loopback)
  if stored.vtep ≠ requested.vtep then
    refuse (.addressChanged "vtep_ip_prefix" stored.vtep requested.vtep)

/-- The life of VRFs. -/
def Vrf.lifecycle : Lifecycle Vrf where
  kind := .vrf
  store := Gateway.vrfs
  replace gateway vrfs := { gateway with vrfs }
  realization gateway vrf := .ok (vrf.realization gateway.settings)
  teardown settings vrf := vrf.teardown settings
  probe vrf := [.linkByName vrf.device]
  report settings vrf := vrf.reported settings

/-- Updates of VRFs. -/
def Vrf.revision : Revision Vrf where
  device? vrf := some vrf.device
  unchanged stored requested := checkVrfUnchanged stored.spec requested.spec
  revised stored requested := { stored with spec := requested.spec }

namespace Gateway

/-- The VRF that a request to create one asks for. -/
def newVrf (gateway : Gateway) (draw : Draw) (id : String) (spec : VrfSpec) : Vrf where
  name := assignName Kind.vrf.collection id draw.id
  spec
  status := {
    localAs := gateway.settings.localAs
    routingTable := routingTable spec.vni
    routerMac := draw.octets.localUnicast }

/-- Creates a VRF, or yields the one that has the name already. -/
def createVrf (draw : Draw) (id : String) (requested : Vrf) : Action Vrf :=
  Vrf.lifecycle.create (checkInterfaceId "vrf_id" id) fun gateway =>
    gateway.newVrf draw id requested.spec

/-- Deletes a VRF with everything that was set up for it. -/
def deleteVrf (request : DeleteRequest) : Action Unit := Vrf.lifecycle.delete request

/-- Brings the device of a VRF into force again; the specification has to be the stored one. -/
def updateVrf (requested : Vrf) : Action Vrf := Vrf.lifecycle.update Vrf.revision requested

/-- The VRF of a name, whose device has to be there. -/
def getVrf (name : String) : Action Vrf := Vrf.lifecycle.look name

/-- A page of the VRFs in the order of their names. -/
def listVrfs (draw : Draw) (request : ListRequest) : Action (Listing Vrf) :=
  Vrf.lifecycle.page draw request

end Gateway

end EvpnGateway
