/-!
# Texts and numbers that denote no network value

* `ValueError` and its wording, `ValueError.message`.
-/

namespace EvpnGateway

/-- Why a text or number is not a network value; each case carries the culprit. -/
inductive ValueError where
  | macAddress (text : String)
  | ipAddress (text : String)
  | ipPrefix (text : String)
  | vlanId (number : Nat)
  | vni (number : Nat)
  deriving DecidableEq, Repr

/-- The wording of the error. -/
def ValueError.message : ValueError → String
  | .macAddress text => "invalid MAC address format: " ++ text
  | .ipAddress text => "invalid IP address format: " ++ text
  | .ipPrefix text => "invalid IP prefix format: " ++ text
  | .vlanId number => "invalid VLAN ID: " ++ toString number ++ " (must be 1-4094)"
  | .vni number => "invalid VNI: " ++ toString number ++ " (must be below 16777216)"

end EvpnGateway
