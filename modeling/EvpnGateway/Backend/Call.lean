import EvpnGateway.Error
import EvpnGateway.Interaction
import EvpnGateway.Link
/-!
# Calls to the backends

The operations of the kernel links and of the routing daemon that the gateway relies on.

* `Call`, `Call.Value`, `Call.Reply`: the operations, what they yield, and how they may fail;
* `Plan`: interactions that make calls; `Operation`: plans that stop at the first error.
-/

namespace EvpnGateway

/-- An operation of one of the backends. -/
inductive Call where
  /-- Create a link, put it under its master and bring it up. -/
  | linkAdd (spec : LinkSpec)
  | linkDel (name : String)
  /-- Look for a live link. -/
  | linkByName (name : String)
  /-- Bring the attributes of a link into force again. -/
  | linkModify (link : LiveLink)
  | addressAdd (name : String) (address : IpPrefix)
  /-- Let a member of a bridge, or the bridge itself, carry a VLAN. -/
  | vlanAdd (device : String) (vlan : VlanId) (tagging : Tagging) (onBridge : Bool)
  | vlanDel (device : String) (vlan : VlanId) (onBridge : Bool)
  /-- Configure routing for a VRF. -/
  | applyVrf (vrf : VrfRouting)
  /-- Undo the routing of a VRF. -/
  | removeVrf (vrf : VrfRouting)
  deriving DecidableEq, Repr

namespace Call

/-- What a call yields when it succeeds. -/
def Value : Call → Type
  | linkByName _ => LiveLink
  | _ => Unit

/-- The answer to a call: an error or its value. -/
abbrev Reply (call : Call) : Type := Except GatewayError call.Value

/-- The device that a call is about; none for the routing daemon. -/
def device? : Call → Option String
  | linkAdd spec => some spec.name
  | linkDel name | linkByName name | addressAdd name _ => some name
  | linkModify link => some link.name
  | vlanAdd device .. | vlanDel device .. => some device
  | applyVrf _ | removeVrf _ => none

end Call

/-- Interactions that make calls. -/
abbrev Plan := Interaction Call Call.Reply

/-- Plans that stop at the first error. -/
abbrev Operation := ExceptT GatewayError Plan

namespace Operation

/-- Makes a call; its error is the error of the operation. -/
def call (call : Call) : Operation call.Value := ExceptT.mk (Interaction.perform call)

/-- Makes a call for its effect. -/
def effect (call : Call) : Operation Unit := do
  let _ ← Operation.call call

/-- The outcome of a pure computation. -/
def ofExcept {α : Type} (result : Except GatewayError α) : Operation α :=
  ExceptT.mk (pure result)

/-- The plan of an operation: an error is a result among others. -/
def plan {α : Type} (operation : Operation α) : Plan (Except GatewayError α) :=
  ExceptT.run operation

end Operation

/-- The backends as seen by a plan. -/
abbrev Backends (σ : Type) := Interaction.Handler Call Call.Reply σ

end EvpnGateway
