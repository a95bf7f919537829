import EvpnGateway.Gateway.Bridge
import EvpnGateway.Gateway.Port
import EvpnGateway.Gateway.Vrf
/-!
# Requests to a gateway

* `Request`, `Answer`: what a gateway can be asked for, and what it answers;
* `Gateway.serve`: the action behind a request;
* `Gateway.step`: a request served over backends, with the calls that were made and the gateway as
  the action left it.
-/

namespace EvpnGateway

/-- What a gateway can be asked for; in requests to create, the id is empty where the owner leaves
it to the gateway. -/
inductive Request where
  | createVrf (id : String) (vrf : Vrf)
  | updateVrf (vrf : Vrf)
  | getVrf (name : String)
  | deleteVrf (request : DeleteRequest)
  | listVrfs (request : ListRequest)
  | createBridge (id : String) (bridge : LogicalBridge)
  | updateBridge (bridge : LogicalBridge)
  | getBridge (name : String)
  | deleteBridge (request : DeleteRequest)
  | listBridges (request : ListRequest)
  | createPort (id : String) (port : BridgePort)
  | getPort (name : String)
  | deletePort (request : DeleteRequest)
  | listPorts (request : ListRequest)
  deriving DecidableEq, Repr

/-- What a gateway answers. -/
inductive Answer where
  | vrf (vrf : Vrf)
  | bridge (bridge : LogicalBridge)
  | port (port : BridgePort)
  | deleted
  | vrfs (listing : Listing Vrf)
  | bridges (listing : Listing LogicalBridge)
  | ports (listing : Listing BridgePort)
  deriving DecidableEq, Repr

namespace Gateway

/-- The action behind a request. -/
def serve (draw : Draw) : Request → Action Answer
  | .createVrf id vrf => Answer.vrf <$> createVrf draw id vrf
  | .updateVrf vrf => Answer.vrf <$> updateVrf vrf
  | .getVrf name => Answer.vrf <$> getVrf name
  | .deleteVrf request => (fun () => Answer.deleted) <$> deleteVrf request
  | .listVrfs request => Answer.vrfs <$> listVrfs draw request
  | .createBridge id bridge => Answer.bridge <$> createBridge draw id bridge
  | .updateBridge bridge => Answer.bridge <$> updateBridge bridge
  | .getBridge name => Answer.bridge <$> getBridge name
  | .deleteBridge request => (fun () => Answer.deleted) <$> deleteBridge request
  | .listBridges request => Answer.bridges <$> listBridges draw request
  | .createPort id port => Answer.port <$> createPort draw id port
  | .getPort name => Answer.port <$> getPort name
  | .deletePort request => (fun () => Answer.deleted) <$> deletePort request
  | .listPorts request => Answer.ports <$> listPorts draw request

/-- What serving a request comes to. -/
structure Served (σ : Type) where
  answer : Except GatewayError Answer
  /-- The calls that reached the backends, in order. -/
  calls : List Call
  gateway : Gateway
  backends : σ

/-- Serves a request over backends. -/
def step {σ : Type} (backends : Backends σ) (gateway : Gateway) (draw : Draw) (request : Request)
    (state : σ) : Served σ :=
  let outcome := ((serve draw request).plan gateway).run backends state
  let (answer, gateway) := outcome.result
  { answer, calls := outcome.asked, gateway, backends := outcome.state }

end Gateway

end EvpnGateway
