import EvpnGateway.Net.ValueError
/-!
# Network segments

The two numbers that tell broadcast domains apart.

* `VlanId`: IEEE 802.1Q identifiers, 1 to 4094;
* `Vni`: VXLAN network identifiers of 24 bits, and the interface names made of them.
-/

namespace EvpnGateway

/-- An IEEE 802.1Q identifier. -/
structure VlanId where
  number : Nat
  pos : 1 ≤ number
  le : number ≤ 4094
  deriving DecidableEq, Repr

/-- The identifier of a number from 1 to 4094. -/
def VlanId.make (number : Nat) : Except ValueError VlanId :=
  if h : 1 ≤ number ∧ number ≤ 4094 then .ok ⟨number, h.1, h.2⟩ else .error (.vlanId number)

instance : ToString VlanId := ⟨fun vlan => toString vlan.number⟩

/-- A VXLAN network identifier. -/
structure Vni where
  number : Nat
  lt : number < 0x1000000
  deriving DecidableEq, Repr

/-- The identifier of a number of 24 bits; zero is one. -/
def Vni.make (number : Nat) : Except ValueError Vni :=
  if h : number < 0x1000000 then .ok ⟨number, h⟩ else .error (.vni number)

instance : ToString Vni := ⟨fun vni => toString vni.number⟩

/-- The name of the VXLAN device that carries the segment. -/
def Vni.vxlanName (vni : Vni) : String := "vni" ++ toString vni.number

/-- The name of the bridge paired with the segment inside a VRF. -/
def Vni.bridgeName (vni : Vni) : String := "br" ++ toString vni.number

end EvpnGateway
