import EvpnGateway.Error
import EvpnGateway.Link
import EvpnGateway.Resource.Codec
import EvpnGateway.Text.Blank
/-!
# Reports on links

What the `ip` tool writes about a link: a list of records, of which the first counts.

* `LinkRecord`, `LinkRecord.link`: what the tool writes about a link, and the link behind it;
* `readLinkReport`: the link in the output of the tool.
-/

namespace EvpnGateway

open Json (Fields Reader)

/-- The kind of a link inside a report. -/
def readLinkInfo : Reader (Option String) :=
  .record "struct IpLinkInfoJson" (.cons (perhaps "info_kind" .text) .nil) fun (kind, _) => kind

/-- A record about a link, as the tool writes it. -/
structure LinkRecord where
  index : UInt32
  name : String
  mtu : UInt32
  operState : String
  address : Option String
  kind : Option String
  deriving DecidableEq, Repr

/-- The link that a record is about. An address that is no MAC address counts as none. -/
def LinkRecord.link (record : LinkRecord) : LiveLink where
  name := record.name
  index := record.index
  kind := record.kind
  mtu := record.mtu
  address := record.address.bind fun text => MacAddress.read? text.toList
  operState := record.operState

/-- Reads a record about a link. -/
def readLinkRecord : Reader LinkRecord := .record "struct IpLinkJson"
  (.cons (required "ifindex" readWord)
  (.cons (required "ifname" .text)
  (.cons (defaulted "mtu" readWord 0)
  (.cons (defaulted "operstate" .text "")
  (.cons (perhaps "address" .text)
  (.cons (perhaps "linkinfo" readLinkInfo) .nil))))))
  fun (index, name, mtu, operState, address, info, _) =>
    { index, name, mtu, operState, address, kind := info.join }

/-- The link that a report is about. Blank output and an empty list mean that there is none. -/
def readLinkReport (name output : String) : Except GatewayError LiveLink :=
  if isBlankText output then .error (.notFound name)
  else match Json.decode (.listOf readLinkRecord) output with
    | .error failure => .error (.linkReport name (failure.describe output))
    | .ok [] => .error (.notFound name)
    | .ok (record :: _) => .ok record.link

end EvpnGateway
