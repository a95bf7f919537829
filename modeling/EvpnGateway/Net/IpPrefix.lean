import EvpnGateway.Net.IpAddress
import EvpnGateway.Net.ValueError
import EvpnGateway.Text.Split
/-!
# IP prefixes

An address with a mask length, as interfaces carry them: the host bits are kept.

* `IpPrefix.make`: refuses a mask longer than the address;
* `IpPrefix.text`, `IpPrefix.parse`: the written form and its reader.
-/

namespace EvpnGateway

/-- An address and the length of its mask. -/
structure IpPrefix where
  address : IpAddress
  length : Nat
  length_le : length ≤ address.bits
  deriving DecidableEq, Repr

namespace IpPrefix

/-- The prefix of an address and a mask length within the address. -/
def make (address : IpAddress) (length : Nat) : Except ValueError IpPrefix :=
  if h : length ≤ address.bits then .ok ⟨address, length, h⟩
  else .error (.ipPrefix ("prefix length " ++ toString length ++ " exceeds maximum " ++
    toString address.bits ++ " for address type"))

/-- The written form as characters. -/
def chars (value : IpPrefix) : List Char :=
  value.address.chars ++ '/' :: Digits.numeral 10 value.length

/-- The address, a slash and the mask length. -/
def text (value : IpPrefix) : String := String.ofList value.chars

instance : ToString IpPrefix := ⟨text⟩

/-- Reads an address, the last slash and a mask length of at most 255 before the bound of the
address family is checked. -/
def parse (text : String) : Except ValueError IpPrefix :=
  match splitLast? '/' text.toList with
  | none => .error (.ipPrefix text)
  | some (address, length) =>
    match IpAddress.read? address with
    | none => .error (.ipAddress (String.ofList address))
    | some address =>
      match Digits.readBelow? 10 256 length with
      | none => .error (.ipPrefix text)
      | some length => make address length

end IpPrefix

end EvpnGateway
