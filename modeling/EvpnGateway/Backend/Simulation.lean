import EvpnGateway.Backend.Call
import EvpnGateway.Resource.Types
import EvpnGateway.Text.Utf8
/-!
# Simulated backends

A kernel that only keeps a table of links, and a routing daemon that takes anything. Calls can be
made to fail.

* `Simulation`: live links, faults and the state of the daemon; `Simulation.backends`;
* `Fault`: calls that fail, after some that still pass.
-/

namespace EvpnGateway

/-- The name of an operation. -/
def Call.word : Call → String
  | linkAdd _ => "link_add"
  | linkDel _ => "link_del"
  | linkByName _ => "link_by_name"
  | linkModify _ => "link_modify"
  | addressAdd .. => "addr_add"
  | vlanAdd .. => "bridge_vlan_add"
  | vlanDel .. => "bridge_vlan_del"
  | applyVrf _ => "apply_vrf"
  | removeVrf _ => "remove_vrf"

/-- Calls of the links that fail. -/
structure Fault where
  call : String
  /-- The only device whose calls fail, unless all do. -/
  device : Option String := none
  /-- The number of calls that still pass. -/
  after : Nat := 0
  deriving DecidableEq, Repr

/-- The fault is about the call. -/
def Fault.covers (fault : Fault) (call : Call) : Bool :=
  fault.call == call.word && (fault.device.isNone || fault.device == call.device?)

/-- The links of a simulated kernel and what is made to fail. -/
structure Simulation where
  links : List LiveLink := []
  /-- The number of links that were created. -/
  created : UInt32 := 0
  faults : List Fault := []
  /-- The routing daemon cannot be reached. -/
  routingDown : Bool := false
  deriving DecidableEq, Repr

namespace Simulation

/-- The live link of a name. -/
def link? (simulation : Simulation) (name : String) : Option LiveLink :=
  simulation.links.find? fun link => link.name == name

/-- Removes a link, if it is there. -/
def drop (simulation : Simulation) (name : String) : Simulation :=
  { simulation with links := simulation.links.filter fun link => link.name != name }

/-- Puts a link among the live ones, instead of one of the same name. -/
def put (simulation : Simulation) (link : LiveLink) : Simulation :=
  { simulation with links := link :: (simulation.drop link.name).links }

/-- Whether a call is made to fail, and the faults that are left for the next. The first fault that
covers the call and lets none pass any more makes it fail. -/
def trip (call : Call) : List Fault → Bool × List Fault
  | [] => (false, [])
  | fault :: faults =>
    if fault.covers call then
      if fault.after = 0 then (true, fault :: faults)
      else
        let (fails, faults) := trip call faults
        (fails, { fault with after := fault.after - 1 } :: faults)
    else
      let (fails, faults) := trip call faults
      (fails, fault :: faults)

/-- The answer to a call that is not made to fail. -/
def perform : (call : Call) → Simulation → call.Reply × Simulation
  | .linkAdd spec, simulation =>
    if interfaceNameLimit < Utf8.size spec.name then
      (.error (.link "link_add" ("\"" ++ spec.name ++ "\" not a valid ifname")), simulation)
    else if (simulation.link? spec.name).isSome then
      (.error (.link "link_add" "file exists"), simulation)
    else
      let index := simulation.created + 1
      let link := { name := spec.name, index, kind := some spec.kind.word, mtu := 1500
                    address := spec.address, operState := "UP" }
      (.ok (), { simulation.put link with created := index })
  | .linkDel name, simulation =>
    if (simulation.link? name).isSome then (.ok (), simulation.drop name)
    else (.error (.link "link_del" ("cannot find device " ++ name)), simulation)
  | .linkByName name, simulation =>
    match simulation.link? name with
    | some link => (.ok link, simulation)
    | none => (.error (.notFound name), simulation)
  | .linkModify _, simulation => (.ok (), simulation)
  | .addressAdd .., simulation => (.ok (), simulation)
  | .vlanAdd .., simulation => (.ok (), simulation)
  | .vlanDel .., simulation => (.ok (), simulation)
  | .applyVrf _, simulation => (.ok (), simulation)
  | .removeVrf _, simulation => (.ok (), simulation)

/-- The error of a call that is made to fail, and the simulation after it. -/
def refusal? (call : Call) (simulation : Simulation) : Option GatewayError × Simulation :=
  let unreachable (operation : String) : Option GatewayError :=
    if simulation.routingDown then some (.routing operation "vtysh connection refused") else none
  match call with
  | .applyVrf _ => (unreachable "apply vrf", simulation)
  | .removeVrf _ => (unreachable "remove vrf", simulation)
  | _ =>
    let (fails, faults) := trip call simulation.faults
    (if fails then some (.link call.word "injected failure") else none, { simulation with faults })

/-- The simulated backends: a call that is made to fail has no other effect. -/
def backends : Backends Simulation := fun call simulation =>
  match refusal? call simulation with
  | (some error, simulation) => (.error error, simulation)
  | (none, simulation) => perform call simulation

end Simulation

end EvpnGateway
