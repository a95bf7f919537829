import EvpnGateway.Net.ValueError
import EvpnGateway.Text.Digits
import EvpnGateway.Text.Split
/-!
# MAC addresses

Six octets, written as pairs of hexadecimal digits.

* `MacAddress.text`, `MacAddress.parse`: the written form and its reader, which also takes hyphens;
* `isMulticast`, `isLocal`, `isZero`: what the bits of the first octet and the whole say;
* `MacAddress.localUnicast`: the router addresses made from random octets.
-/

namespace EvpnGateway

/-- An Ethernet address of six octets. -/
structure MacAddress where
  a : UInt8
  b : UInt8
  c : UInt8
  d : UInt8
  e : UInt8
  f : UInt8
  deriving DecidableEq, Repr

namespace MacAddress

/-- The address of six zero octets. -/
def zero : MacAddress := ⟨0, 0, 0, 0, 0, 0⟩

instance : Inhabited MacAddress := ⟨zero⟩

/-- The octets in the order of transmission. -/
def octets (mac : MacAddress) : List UInt8 := [mac.a, mac.b, mac.c, mac.d, mac.e, mac.f]

/-- The address names a group of stations. -/
def isMulticast (mac : MacAddress) : Bool := mac.a &&& 1 != 0

/-- The address was assigned locally and not by a vendor. -/
def isLocal (mac : MacAddress) : Bool := mac.a &&& 2 != 0

/-- All octets are zero. -/
def isZero (mac : MacAddress) : Bool := mac == zero

/-- The address made local and unicast, all other bits kept. -/
def localUnicast (mac : MacAddress) : MacAddress := { mac with a := (mac.a ||| 2) &&& 0xfe }

theorem isLocal_localUnicast (mac : MacAddress) : mac.localUnicast.isLocal = true := by
  have bits : ∀ x : BitVec 8, ((x ||| 2) &&& 0xfe) &&& 2 = 2 := by decide +kernel
  have octet : ((mac.a ||| 2) &&& 0xfe) &&& 2 = 2 := UInt8.toBitVec_inj.1 (bits mac.a.toBitVec)
  simp [localUnicast, isLocal, octet]

theorem isMulticast_localUnicast (mac : MacAddress) : mac.localUnicast.isMulticast = false := by
  have bits : ∀ x : BitVec 8, ((x ||| 2) &&& 0xfe) &&& 1 = 0 := by decide +kernel
  have octet : ((mac.a ||| 2) &&& 0xfe) &&& 1 = 0 := UInt8.toBitVec_inj.1 (bits mac.a.toBitVec)
  simp [localUnicast, isMulticast, octet]

/-- Pairs of lower-case hexadecimal digits with colons between them. -/
def chars (mac : MacAddress) : List Char :=
  [':'].intercalate (mac.octets.map fun octet => Digits.padded 2 16 octet.toNat)

/-- The written form of the address. -/
def text (mac : MacAddress) : String := String.ofList mac.chars

instance : ToString MacAddress := ⟨text⟩

/-- An octet written in two characters. -/
def readOctet? (part : List Char) : Option UInt8 :=
  if part.length = 2 then (Digits.readBelow? 16 256 part).map UInt8.ofNat else none

/-- Six octets with colons between them, or with hyphens if there is no colon. -/
def read? (text : List Char) : Option MacAddress :=
  let separator := if text.contains ':' then ':' else '-'
  match (split separator text).mapM readOctet? with
  | some [a, b, c, d, e, f] => some ⟨a, b, c, d, e, f⟩
  | _ => none

/-- Reads a written address; the error carries the whole text. -/
def parse (text : String) : Except ValueError MacAddress :=
  match read? text.toList with
  | some mac => .ok mac
  | none => .error (.macAddress text)

end MacAddress

end EvpnGateway
