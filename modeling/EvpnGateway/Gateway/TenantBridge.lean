import EvpnGateway.Backend.Call
/-!
# The tenant bridge

All logical bridges share one bridge that tells VLANs apart. It is created when the gateway starts,
unless it is there already.

* `bridgeExists`, `ensureTenantBridge`.
-/

namespace EvpnGateway

/-- Whether a link of the name is live. -/
def bridgeExists (name : String) : Operation Bool := ExceptT.mk do
  match ← Interaction.perform (Call.linkByName name) with
  | .ok _ => return .ok true
  | .error error => return if error.code = .notFound then .ok false else .error error

/-- Creates the bridge that carries all logical bridges, unless there is one. -/
def ensureTenantBridge (name : String) : Operation Unit := do
  if ← bridgeExists name then return
  Operation.effect (.linkAdd { name, kind := .bridge true })

end EvpnGateway
