import EvpnGateway.Link
import EvpnGateway.Shell.Quote
/-!
# Commands

The command lines of the `ip` and `bridge` tools and of `vtysh`. A command is a list of words; the
words that hold names or lines from outside are quoted, all others are fixed or numbers.

* `Word`, `Command`, `Command.text`;
* `Command.linkAdd` and its likes: one command for each thing to do;
* `VrfRouting.applyLines`, `VrfRouting.removeLines`: what the routing daemon is told.
-/

namespace EvpnGateway

/-- A word of a command. -/
inductive Word where
  | plain (text : String)
  /-- A text from outside, quoted. -/
  | quoted (text : String)
  deriving DecidableEq, Repr

/-- A word as it is written. -/
def Word.text : Word → String
  | plain text => text
  | quoted text => shellQuote text

/-- A command: its words in order. -/
abbrev Command := List Word

namespace Command

/-- The words with single blanks between them. -/
def text (command : Command) : String := " ".intercalate (command.map Word.text)

/-- Fixed words. -/
def fixed (words : List String) : Command := words.map .plain

/-- The tool for links and addresses. -/
def ip : String := "/sbin/ip"

/-- The tool for VLANs of bridges. -/
def bridge : String := "/sbin/bridge"

/-- The shell of the routing daemon. -/
def vtysh : String := "/usr/bin/vtysh"

/-! ## Links -/

/-- The kind of a link and its attributes. -/
def kindWords : LinkKind → Command
  | .vrf table => fixed ["vrf", "table", toString table.toNat]
  | .bridge vlanFiltering =>
    fixed ["bridge", "vlan_filtering", if vlanFiltering then "1" else "0"]
  | .vxlan vni localAddress port =>
    let localWords := match localAddress with
      | some address => ["local", address.text]
      | none => []
    fixed (["vxlan", "id", toString vni.number] ++ localWords ++
      ["dstport", toString port.toNat, "nolearning"])
  | .dummy => fixed ["dummy"]

/-- Creates a link, without its master. -/
def linkAdd (spec : LinkSpec) : Command :=
  let address := match spec.address with
    | some mac => ["address", mac.text]
    | none => []
  fixed [ip, "link", "add"] ++ [.quoted spec.name] ++ fixed (address ++ ["type"]) ++
    kindWords spec.kind

/-- Puts a link under a master. -/
def linkSetMaster (name master : String) : Command :=
  fixed [ip, "link", "set"] ++ [.quoted name, .plain "master", .quoted master]

/-- Brings a link up. -/
def linkSetUp (name : String) : Command :=
  fixed [ip, "link", "set"] ++ [.quoted name, .plain "up"]

/-- Deletes a link. -/
def linkDel (name : String) : Command := fixed [ip, "link", "del"] ++ [.quoted name]

/-- Asks for a report on a link. -/
def linkShow (name : String) : Command :=
  fixed [ip, "-j", "-d", "link", "show", "dev"] ++ [.quoted name]

/-- Gives a link an address. -/
def addressAdd (name : String) (address : IpPrefix) : Command :=
  fixed [ip, "address", "add", address.text, "dev"] ++ [.quoted name]

/-! ## VLANs -/

/-- The word that names the bridge itself and not one of its ports. -/
def target (onBridge : Bool) : Command := if onBridge then fixed ["self"] else []

/-- Lets a device carry a VLAN. -/
def vlanAdd (device : String) (vlan : VlanId) (tagging : Tagging) (onBridge : Bool) : Command :=
  let mode := match tagging with
    | .tagged => []
    | .untagged => ["pvid", "untagged"]
  fixed [bridge, "vlan", "add", "vid", toString vlan.number, "dev"] ++ [.quoted device] ++
    fixed mode ++ target onBridge

/-- Takes a VLAN from a device. -/
def vlanDel (device : String) (vlan : VlanId) (onBridge : Bool) : Command :=
  fixed [bridge, "vlan", "del", "vid", toString vlan.number, "dev"] ++ [.quoted device] ++
    target onBridge

/-! ## Routing -/

/-- Gives the routing daemon lines of configuration. -/
def configure (lines : List String) : Command :=
  .plain vtysh :: ("configure terminal" :: lines).flatMap fun line => [.plain "-c", .quoted line]

end Command

namespace VrfRouting

/-- Binds a VRF to its segment and announces it to the fabric. -/
def applyLines (vrf : VrfRouting) (vni : Vni) : List String :=
  let routerId := match vrf.routerId with
    | some address => ["bgp router-id " ++ address.text]
    | none => []
  ["vrf " ++ vrf.name, "vni " ++ toString vni.number, "exit-vrf",
    "router bgp " ++ toString vrf.localAs.toNat ++ " vrf " ++ vrf.name] ++ routerId ++
    ["no bgp ebgp-requires-policy", "address-family ipv4 unicast", "redistribute connected",
      "exit-address-family", "address-family l2vpn evpn", "advertise ipv4 unicast",
      "exit-address-family", "exit"]

/-- Takes back what the lines for a VRF configured. -/
def removeLines (vrf : VrfRouting) (vni : Vni) : List String :=
  ["no router bgp " ++ toString vrf.localAs.toNat ++ " vrf " ++ vrf.name, "vrf " ++ vrf.name,
    "no vni " ++ toString vni.number, "exit-vrf", "no vrf " ++ vrf.name]

end VrfRouting

end EvpnGateway
