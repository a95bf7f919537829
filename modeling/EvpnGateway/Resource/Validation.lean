import EvpnGateway.Error
import EvpnGateway.Resource.Name
import EvpnGateway.Text.Blank
import EvpnGateway.Text.Utf8
/-!
# Checks of requests

Checks that need the request alone. They come before any look at what is stored.

* `Refusal`: what a request may be refused for, with the wording;
* `checkId`, `checkInterfaceId`, `checkName`: ids that owners choose, and names of resources;
* `checkPort`: the rules for ports.
-/

namespace EvpnGateway

/-- Why a request is refused. -/
inductive Refusal where
  /-- The id has another length, in bytes, than ids may have. -/
  | idLength (bytes : Nat)
  | idStart
  | idEnd
  /-- The id holds a foreign character; its position counts bytes. -/
  | idCharacter (c : Char) (position : Nat)
  /-- The id is too long for an interface; the field tells which id. -/
  | idForInterface (field id : String)
  | missingField (field : String)
  /-- The name lies in another collection. -/
  | nameForm (name collection : String)
  | nameId (name : String)
  | macNotUnicast (mac : MacAddress)
  | accessBridges (count : Nat)
  | negativePageSize
  | unknownToken (token : String)
  /-- A stored bridge has the VLAN or the segment already. -/
  | segmentTaken (name : String) (vlan : VlanId) (owner : String)
  | vniChanged (stored requested : Option Vni)
  | addressChanged (field : String) (stored requested : Option IpPrefix)
  | segmentChanged
  deriving DecidableEq, Repr

namespace Refusal

/-- An optional number in words. -/
def optionText : Option Vni → String
  | some vni => "Some(" ++ toString vni ++ ")"
  | none => "None"

/-- An optional prefix in words. -/
def prefixText : Option IpPrefix → String
  | some value => value.text
  | none => "none"

/-- The wording of a refusal. -/
def message : Refusal → String
  | idLength bytes =>
    "user-settable ID must be between 4 and 63 characters (got " ++ toString bytes ++ ")"
  | idStart => "user-settable ID must begin with a letter"
  | idEnd => "user-settable ID must end with a letter or number"
  | idCharacter c position =>
    "user-settable ID must only contain lowercase, numbers and hyphens (got: '" ++ c.toString ++
      "' in position " ++ toString position ++ ")"
  | idForInterface field id =>
    field ++ " " ++ id ++ " is longer than " ++ toString interfaceNameLimit ++
      " characters and cannot name an interface"
  | missingField field => "missing required field: " ++ field
  | nameForm name collection =>
    "resource name " ++ name ++ " must be of the form " ++ collection ++ "/\x7bid\x7d"
  | nameId name => "invalid resource name " ++ name
  | macNotUnicast mac => "bridge port MAC address " ++ mac.text ++ " must be a unicast address"
  | accessBridges count =>
    "ACCESS type must have single LogicalBridge and not (" ++ toString count ++ ")"
  | negativePageSize => "negative PageSize is not allowed"
  | unknownToken token => "unable to find pagination token " ++ token
  | segmentTaken name vlan owner =>
    name ++ " would share VLAN " ++ toString vlan ++ " or its VNI with " ++ owner
  | vniChanged stored requested =>
    "vni cannot be changed after creation (stored " ++ optionText stored ++ ", requested " ++
      optionText requested ++ ")"
  | addressChanged field stored requested =>
    field ++ " cannot be changed after creation (stored " ++ prefixText stored ++ ", requested " ++
      prefixText requested ++ ")"
  | segmentChanged => "vni and vlan_id cannot be changed after creation"

/-- The error that a refused request is answered with. -/
def toError (refusal : Refusal) : GatewayError := .invalidArgument refusal.message

end Refusal

/-- A check of a request: nothing, or why it is refused. -/
abbrev Check := Except GatewayError Unit

/-- Refuses a request. -/
def refuse {α : Type} (refusal : Refusal) : Except GatewayError α := .error refusal.toError

@[simp] theorem refuse_ne_ok {α : Type} (refusal : Refusal) (value : α) :
    refuse refusal ≠ .ok value := nofun

/-! ## Ids -/

/-- A lower-case ASCII letter. -/
def isLetter (c : Char) : Bool := 'a' ≤ c && c ≤ 'z'

/-- A character that ids may hold: a lower-case ASCII letter, a digit or a hyphen. -/
def isIdChar (c : Char) : Bool := isLetter c || c.isDigit || c = '-'

/-- The first character that ids may not hold, and its position in bytes. -/
def foreignChar? (position : Nat) : List Char → Option (Char × Nat)
  | [] => none
  | c :: rest =>
    if isIdChar c then foreignChar? (position + c.utf8Size) rest else some (c, position)

/-- An id that an owner may choose: 4 to 63 lower-case letters, digits and hyphens, with a letter in
front and no hyphen at the end. The length is counted in bytes. -/
def checkId (id : String) : Check :=
  let chars := id.toList
  if Utf8.size id < 4 ∨ 63 < Utf8.size id then refuse (.idLength (Utf8.size id))
  else if ¬ chars.head?.any isLetter then refuse .idStart
  else if chars.getLast? = some '-' then refuse .idEnd
  else match foreignChar? 0 chars with
    | some (c, position) => refuse (.idCharacter c position)
    | none => .ok ()

/-- An id that an owner may choose, or none. -/
def checkOptionalId (id : String) : Check := if id.isEmpty then .ok () else checkId id

/-- An id that an owner may choose for an interface, or none. -/
def checkInterfaceId (field id : String) : Check := do
  checkOptionalId id
  if interfaceNameLimit < Utf8.size id then refuse (.idForInterface field id)

/-! ## Names -/

/-- A name is the collection, a slash, and an id that is not empty and has neither slashes nor
white space. -/
def checkName (collection name : String) : Check :=
  if name.isEmpty then refuse (.missingField "name")
  else match after? (collection.toList ++ ['/']) name.toList with
    | none => refuse (.nameForm name collection)
    | some id =>
      if id.isEmpty ∨ id.contains '/' ∨ id.any isBlank then refuse (.nameId name) else .ok ()

/-! ## Ports -/

/-- A new port has a type, a unicast address that is not zero, at most one bridge if it is an access
port, and well-formed names of bridges. -/
def checkPort (id : String) (spec : BridgePortSpec) : Check := do
  if spec.type = .unspecified then refuse (.missingField "bridge_port.spec.ptype")
  if spec.mac.isZero ∨ spec.mac.isMulticast then refuse (.macNotUnicast spec.mac)
  if spec.type = .access ∧ 1 < spec.bridges.length then refuse (.accessBridges spec.bridges.length)
  spec.bridges.forM (checkName Kind.bridge.collection)
  checkInterfaceId "bridge_port_id" id

end EvpnGateway
