import EvpnGateway.Net.IpAddress
/-!
# Socket addresses

* `SocketAddress`, its `text` and `SocketAddress.parse?`.
-/

namespace EvpnGateway

/-- A place to listen: an address and a port; the second family may name a scope. -/
inductive SocketAddress where
  | v4 (address : Ipv4Address) (port : UInt16)
  | v6 (address : Ipv6Address) (scope : UInt32) (port : UInt16)
  deriving DecidableEq, Repr

namespace SocketAddress

/-- Address and port with a colon between them, an IPv6 address in brackets. -/
def text : SocketAddress → String
  | .v4 address port => String.ofList address.chars ++ ":" ++ toString port.toNat
  | .v6 address scope port =>
    let zone := if scope = 0 then "" else "%" ++ toString scope.toNat
    "[" ++ String.ofList address.chars ++ zone ++ "]:" ++ toString port.toNat

instance : ToString SocketAddress := ⟨text⟩

/-- A colon and a port at the end of a text. -/
def readPort? : List Char → Option UInt16
  | ':' :: rest =>
    match scanNumber? 10 rest.length 0x10000 true rest with
    | some (port, []) => some (UInt16.ofNat port)
    | _ => none
  | _ => none

/-- A percent sign and a scope number, where there is one. -/
def scanScope? : List Char → Option (UInt32 × List Char)
  | '%' :: rest =>
    (scanNumber? 10 rest.length 0x100000000 true rest).map fun (n, rest) => (UInt32.ofNat n, rest)
  | text => some (0, text)

/-- The socket address that a whole text writes. -/
def read? (text : List Char) : Option SocketAddress :=
  match text with
  | '[' :: inner => do
    let (address, rest) ← Ipv6Address.scan? inner
    let (scope, rest) ← scanScope? rest
    match rest with
    | ']' :: rest => (readPort? rest).map (.v6 address scope)
    | _ => none
  | _ => do
    let (address, rest) ← Ipv4Address.scan? text
    (readPort? rest).map (.v4 address)

/-- The socket address that a whole text writes. -/
def parse? (text : String) : Option SocketAddress := read? text.toList

end SocketAddress

end EvpnGateway
