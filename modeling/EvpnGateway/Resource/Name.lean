import EvpnGateway.Resource.Types
import EvpnGateway.Resource.Uuid
import EvpnGateway.Text.Split
/-!
# Names of resources

A name is a collection, a slash and an id. The owner may choose the id; otherwise it is random.

* `fullName`, `shortId`: from the id to the name and back;
* `newId`, `assignName`: the id of a resource whose owner chose none, and the name of a new one.
-/

namespace EvpnGateway

/-- The collection, a slash and the id. -/
def fullName (collection id : String) : String := collection ++ "/" ++ id

/-- What follows the last slash of a name. -/
def shortIdChars (name : List Char) : List Char :=
  match splitLast? '/' name with
  | some (_, id) => id
  | none => name

/-- What follows the last slash of a name. -/
def shortId (name : String) : String := String.ofList (shortIdChars name.toList)

/-- Resources of the collection are links that carry their id for a name. -/
def namesInterface (collection : String) : Bool :=
  collection == Kind.vrf.collection || collection == Kind.port.collection

/-- An id for a resource whose owner chose none. Where it has to name an interface it is the letter
`r` and the first twelve digits of the random identifier, and all of that otherwise. -/
def newId (collection : String) (uuid : Uuid) : String :=
  if namesInterface collection then String.ofList ('r' :: uuid.hex.take 12) else uuid.text

/-- The name of a new resource: the id that its owner chose, or a random one. -/
def assignName (collection chosen : String) (uuid : Uuid) : String :=
  fullName collection (if chosen.isEmpty then newId collection uuid else chosen)

end EvpnGateway
