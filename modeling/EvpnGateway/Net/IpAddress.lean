import EvpnGateway.Text.Digits
/-!
# IP addresses

Addresses of both families with their usual texts (RFC 5952 for the second).

* `Ipv4Address`, `Ipv6Address`, `IpAddress` and their `text`;
* `Ipv4Address.scan?`, `Ipv6Address.scan?`: read an address at the front of a text;
* `IpAddress.parse?`: reads a whole text.
-/

namespace EvpnGateway

/-- An address of four octets. -/
structure Ipv4Address where
  a : UInt8
  b : UInt8
  c : UInt8
  d : UInt8
  deriving DecidableEq, Repr

/-- An address of eight groups of sixteen bits. -/
structure Ipv6Address where
  groups : List UInt16
  length_eq : groups.length = 8
  deriving DecidableEq, Repr

/-- An address of either family. -/
inductive IpAddress where
  | v4 (address : Ipv4Address)
  | v6 (address : Ipv6Address)
  deriving DecidableEq, Repr

/-! ## Written forms -/

/-- Four decimal numbers with dots between them. -/
def Ipv4Address.chars (address : Ipv4Address) : List Char :=
  ['.'].intercalate ([address.a, address.b, address.c, address.d].map fun octet =>
    Digits.numeral 10 octet.toNat)

namespace Ipv6Address

/-- Hexadecimal groups with colons between them. -/
def groupChars (groups : List UInt16) : List Char :=
  [':'].intercalate (groups.map fun group => Digits.numeral 16 group.toNat)

/-- The length of the run of zero groups that a list begins with. -/
def zeroRun (groups : List UInt16) : Nat := (groups.takeWhile (· == 0)).length

/-- Start and length of the longest run of zero groups, the first of several. -/
def longestZeros : List UInt16 → Nat × Nat
  | [] => (0, 0)
  | group :: rest =>
    let (start, length) := longestZeros rest
    let here := zeroRun (group :: rest)
    if length ≤ here ∧ here ≠ 0 then (0, here) else (start + 1, length)

/-- The IPv4 address that the last two groups hold after five zero groups and one of ones. -/
def mapped? (address : Ipv6Address) : Option Ipv4Address :=
  match address.groups with
  | [0, 0, 0, 0, 0, 0xffff, high, low] =>
    some ⟨(high >>> 8).toUInt8, high.toUInt8, (low >>> 8).toUInt8, low.toUInt8⟩
  | _ => none

/-- The shortest form: two colons stand for the longest run of two or more zero groups, and an
IPv4 address carried inside is written as one. -/
def chars (address : Ipv6Address) : List Char :=
  match address.mapped? with
  | some inner => "::ffff:".toList ++ inner.chars
  | none =>
    let (start, length) := longestZeros address.groups
    if 1 < length then
      groupChars (address.groups.take start) ++ [':', ':'] ++
        groupChars (address.groups.drop (start + length))
    else groupChars address.groups

end Ipv6Address

namespace IpAddress

/-- The written form of an address as characters. -/
def chars : IpAddress → List Char
  | .v4 address => address.chars
  | .v6 address => address.chars

/-- The written form of an address. -/
def text (address : IpAddress) : String := String.ofList address.chars

instance : ToString IpAddress := ⟨text⟩

/-- The number of bits of an address. -/
def bits : IpAddress → Nat
  | .v4 _ => 32
  | .v6 _ => 128

end IpAddress

/-! ## Readers -/

/-- A run of digits at the front of a text: at most `most` of them, a value below `limit`, and a
zero in front of others only if `zeros` allows it. -/
def scanNumber? (base most limit : Nat) (zeros : Bool) (text : List Char) :
    Option (Nat × List Char) :=
  let isDigit := fun c => (Digits.digit? base c).isSome
  let digits := text.takeWhile isDigit
  if most < digits.length ∨ (!zeros ∧ 1 < digits.length ∧ digits.head? = some '0') then none
  else match Digits.read? base digits with
    | some n => if n < limit then some (n, text.dropWhile isDigit) else none
    | none => none

/-- The text behind `mark`, or the text itself where none is due. -/
def scanMark? (mark : Char) (due : Bool) : List Char → Option (List Char)
  | text@(c :: rest) => if due then (if c = mark then some rest else none) else some text
  | [] => if due then none else some []

namespace Ipv4Address

/-- An octet in decimal, behind a dot unless it is the first. -/
def scanOctet? (due : Bool) (text : List Char) : Option (UInt8 × List Char) := do
  let rest ← scanMark? '.' due text
  let (n, rest) ← scanNumber? 10 3 256 false rest
  return (UInt8.ofNat n, rest)

/-- Four octets at the front of a text. -/
def scan? (text : List Char) : Option (Ipv4Address × List Char) := do
  let (a, text) ← scanOctet? false text
  let (b, text) ← scanOctet? true text
  let (c, text) ← scanOctet? true text
  let (d, text) ← scanOctet? true text
  return (⟨a, b, c, d⟩, text)

/-- The two groups that the octets fill. -/
def toGroups (address : Ipv4Address) : List UInt16 :=
  [address.a.toUInt16 <<< 8 ||| address.b.toUInt16, address.c.toUInt16 <<< 8 ||| address.d.toUInt16]

end Ipv4Address

namespace Ipv6Address

/-- Reads as many groups as follow, at most `slots`, behind colons except for the first. The last
two may be written as an IPv4 address, which ends them; the flag tells. -/
def scanGroups : (slots : Nat) → (due : Bool) → List Char → List UInt16 × Bool × List Char
  | 0, _, text => ([], false, text)
  | slots + 1, due, text =>
    let inner := if slots = 0 then none else (scanMark? ':' due text).bind Ipv4Address.scan?
    match inner with
    | some (address, rest) => (address.toGroups, true, rest)
    | none =>
      match (scanMark? ':' due text).bind (scanNumber? 16 4 0x10000 true) with
      | some (group, rest) =>
        let (groups, ended, rest) := scanGroups slots true rest
        (UInt16.ofNat group :: groups, ended, rest)
      | none => ([], false, text)

/-- The address of a list of groups, if there are eight. -/
def ofGroups? (groups : List UInt16) : Option Ipv6Address :=
  if h : groups.length = 8 then some ⟨groups, h⟩ else none

/-- Eight groups at the front of a text, or fewer on the two sides of two colons. -/
def scan? (text : List Char) : Option (Ipv6Address × List Char) :=
  let (head, ended, rest) := scanGroups 8 false text
  if head.length = 8 then (ofGroups? head).map (·, rest)
  else if ended then none
  else match rest with
    | ':' :: ':' :: rest =>
      let (tail, _, rest) := scanGroups (7 - head.length) false rest
      let zeros := List.replicate (8 - head.length - tail.length) 0
      (ofGroups? (head ++ zeros ++ tail)).map (·, rest)
    | _ => none

end Ipv6Address

namespace IpAddress

/-- An address of either family at the front of a text. -/
def scan? (text : List Char) : Option (IpAddress × List Char) :=
  match Ipv4Address.scan? text with
  | some (address, rest) => some (.v4 address, rest)
  | none => (Ipv6Address.scan? text).map fun (address, rest) => (.v6 address, rest)

/-- The address that a whole text writes. -/
def read? (text : List Char) : Option IpAddress :=
  match scan? text with
  | some (address, []) => some address
  | _ => none

/-- The address that a whole text writes. -/
def parse? (text : String) : Option IpAddress := read? text.toList

end IpAddress

end EvpnGateway
