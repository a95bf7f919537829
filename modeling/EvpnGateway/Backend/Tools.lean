import EvpnGateway.Backend.Call
import EvpnGateway.Backend.LinkReport
import EvpnGateway.Shell.Command
import EvpnGateway.Shell.Process
/-!
# Backends made of command line tools

Every call becomes commands for the tools. A command that fails ends the call, and the error names
the step.

* `Tools.reply`: the commands behind a call; `Tools.backends`: backends over any surroundings that
  run commands, with a record of the commands.
-/

namespace EvpnGateway.Tools

/-- Runs a command as a step of a call; `label` makes the error of the step. -/
def step (label : String → GatewayError) (command : Command) : ExceptT GatewayError Shell Unit :=
  ExceptT.mk do
    match ← executeChecked command.text with
    | .ok _ => return .ok ()
    | .error error => return .error (label error.message)

/-- A step on a link. -/
def linkStep (operation : String) : Command → ExceptT GatewayError Shell Unit :=
  step (.link operation)

/-- Creates a link, puts it under its master and brings it up. -/
def linkAdd (spec : LinkSpec) : ExceptT GatewayError Shell Unit := do
  linkStep "link add" (Command.linkAdd spec)
  match spec.master with
  | some master => linkStep "link set master" (Command.linkSetMaster spec.name master)
  | none => pure ()
  linkStep "link set up" (Command.linkSetUp spec.name)

/-- Looks for a link. A tool that fails knows no such link; one that cannot be started knows
nothing. -/
def linkByName (name : String) : Shell (Except GatewayError LiveLink) := do
  match ← executeChecked (Command.linkShow name).text with
  | .ok output => return readLinkReport name output
  | .error (.commandFailed ..) => return .error (.notFound name)
  | .error error => return .error error

/-- Tells the routing daemon about a VRF, unless the VRF is not attached to the fabric. -/
def routing (operation : String) (vrf : VrfRouting) (lines : Vni → List String) :
    ExceptT GatewayError Shell Unit :=
  match vrf.vni with
  | some vni => step (.routing operation) (Command.configure (lines vni))
  | none => pure ()

/-- The commands behind a call and its answer. -/
def reply : (call : Call) → Shell call.Reply
  | .linkAdd spec => linkAdd spec
  | .linkDel name => linkStep "link del" (Command.linkDel name)
  | .linkByName name => linkByName name
  | .linkModify link => linkStep "link modify" (Command.linkSetUp link.name)
  | .addressAdd name address => linkStep "address add" (Command.addressAdd name address)
  | .vlanAdd device vlan tagging onBridge =>
    linkStep "bridge vlan add" (Command.vlanAdd device vlan tagging onBridge)
  | .vlanDel device vlan onBridge =>
    linkStep "bridge vlan del" (Command.vlanDel device vlan onBridge)
  | .applyVrf vrf => routing "apply vrf" vrf vrf.applyLines
  | .removeVrf vrf => routing "remove vrf" vrf vrf.removeLines

/-- Backends over surroundings that run commands; the commands are recorded in the state. -/
def backends {σ : Type} (run : Interaction.Handler String (fun _ => ProcessReport) σ) :
    Backends (σ × List String) := fun call (state, commands) =>
  let outcome := (reply call).run run state
  (outcome.result, outcome.state, commands ++ outcome.asked)

end EvpnGateway.Tools
