import EvpnGateway.Gateway.Request
import EvpnGateway.Http.MediaType
import EvpnGateway.Http.Message
import EvpnGateway.Http.Percent
import EvpnGateway.Resource.Codec
/-!
# Routes

Which request to the gateway an incoming message stands for.

* `Endpoint`, `Endpoint.ofPath?`: the places that the service has;
* `Fault`: why a message stands for none, with the `Fault.response` to it;
* `readId`, `queryText`, `queryFlag`, `queryPage`, `readBody`: the parts of a message;
* `interpret`: the health question or the request that a message stands for.
-/

namespace EvpnGateway.Http

/-! ## Faults -/

/-- Why a message is no request to the gateway. -/
inductive Fault where
  | unknownPath
  | methodNotAllowed
  /-- The id in the path is no text. -/
  | idNotText
  | query
  | contentType
  /-- The body is longer than any that is read. -/
  | bodyTooLong
  /-- The body is no JSON. -/
  | syntaxError
  /-- The body is the JSON of something else; the cause may be a value that denotes nothing. -/
  | mismatch (cause : Option ValueError)
  deriving DecidableEq, Repr

/-- An error of a code as content. -/
def errorContent (code : Code) (message : String) : Content :=
  .json (.object [("code", .string code.name), ("message", .string message)])

/-- The response to a message that is at fault itself. -/
def badRequest (message : String) : Response :=
  ⟨Code.invalidArgument.httpStatus, errorContent .invalidArgument message⟩

/-- The response to a message that is no request. -/
def Fault.response : Fault → Response
  | unknownPath => ⟨404, .empty⟩
  | methodNotAllowed => ⟨405, .empty⟩
  | idNotText => ⟨400, .text "Invalid URL: Invalid UTF-8 in `id`"⟩
  | query => badRequest "Failed to deserialize query string"
  | contentType => badRequest "Expected request with `Content-Type: application/json`"
  | bodyTooLong => badRequest "Failed to buffer the request body: length limit exceeded"
  | syntaxError => badRequest "Failed to parse the request body as JSON"
  | mismatch cause =>
    let detail := match cause with
      | some error => " [" ++ error.message ++ "]"
      | none => ""
    badRequest ("Failed to deserialize the JSON body into the target type" ++ detail)

/-! ## Endpoints -/

/-- A place that messages can be sent to. -/
inductive Endpoint where
  | health
  /-- All resources of a kind. -/
  | collection (kind : Kind)
  /-- One resource, with its id as the path has it. -/
  | item (kind : Kind) (id : List Char)
  deriving DecidableEq, Repr

/-- The kind whose collection is called so. -/
def kindOf? (segment : List Char) : Option Kind :=
  [Kind.vrf, .bridge, .port].find? fun kind => kind.collection.toList == segment

/-- The endpoint at a path. Segments are compared as they are written, and an id is not empty. -/
def Endpoint.ofPath? (path : List Char) : Option Endpoint :=
  match split '/' path with
  | [[], segment] => if segment = "health".toList then some .health else none
  | [[], ['v', '1'], segment] => (kindOf? segment).map .collection
  | [[], ['v', '1'], segment, id] =>
    if id.isEmpty then none else (kindOf? segment).map (.item · id)
  | _ => none

/-! ## Parts of a message -/

/-- The id in a path in plain text. -/
def readId (id : List Char) : Except Fault String :=
  match Utf8.decode? (percentDecode id) with
  | some id => .ok id
  | none => .error .idNotText

/-- A field of a query, or its value where it is missing. -/
def queryField {α : Type} (target : Target) (name : String) (absent : α)
    (read : String → Option α) : Except Fault α :=
  match (Form.parse target.query).single? name with
  | none => .error .query
  | some none => .ok absent
  | some (some value) =>
    match read value with
    | some value => .ok value
    | none => .error .query

/-- A field of a query with a text. -/
def queryText (target : Target) (name : String) : Except Fault String :=
  queryField target name "" some

/-- A field of a query with a truth value. -/
def queryFlag (target : Target) (name : String) : Except Fault Bool :=
  queryField target name false fun
    | "true" => some true
    | "false" => some false
    | _ => none

/-- The page that a query asks for. -/
def queryPage (target : Target) : Except Fault ListRequest := do
  let size ← queryField target "page_size" 0 fun value =>
    Digits.readInt? (-0x80000000) 0x7fffffff value.toList
  return { pageSize := size, pageToken := ← queryText target "page_token" }

/-- The length of the longest body that is read, in bytes. -/
def bodyLimit : Nat := 2 * 1024 * 1024

/-- The resource in the body of a message. The header is looked at before the body is read. -/
def readBody (α : Type) [FromJson α] (message : Message) : Except Fault α :=
  if (message.contentType.bind MediaType.parse?).any MediaType.isJson then
    if bodyLimit < message.body.bytes.length then .error .bodyTooLong
    else match fromJson α message.body.source with
      | .ok value => .ok value
      | .error failure =>
        .error (if failure.isMismatch then .mismatch failure.valueError? else .syntaxError)
  else .error .contentType

/-! ## Interpretation -/

/-- What a message asks for. -/
inductive Question where
  | health
  | gateway (request : Request)
  deriving DecidableEq, Repr

/-- The request to list a kind. -/
def listRequest : Kind → ListRequest → Request
  | .vrf => .listVrfs
  | .bridge => .listBridges
  | .port => .listPorts

/-- The request to create a resource of a kind: first the id in the query, then the body. -/
def createRequest (message : Message) : Kind → Except Fault Request
  | .vrf => do
    let id ← queryText message.target "vrf_id"
    return .createVrf id (← readBody Vrf message)
  | .bridge => do
    let id ← queryText message.target "logical_bridge_id"
    return .createBridge id (← readBody LogicalBridge message)
  | .port => do
    let id ← queryText message.target "bridge_port_id"
    return .createPort id (← readBody BridgePort message)

/-- The request to look up a resource of a kind. -/
def getRequest : Kind → (name : String) → Request
  | .vrf => .getVrf
  | .bridge => .getBridge
  | .port => .getPort

/-- The request to update the resource of a name, whatever name the body gives; ports cannot be
updated. -/
def updateRequest (message : Message) (id : List Char) : Kind → Except Fault Request
  | .vrf => do
    let id ← readId id
    let vrf ← readBody Vrf message
    return .updateVrf { vrf with name := fullName Kind.vrf.collection id }
  | .bridge => do
    let id ← readId id
    let bridge ← readBody LogicalBridge message
    return .updateBridge { bridge with name := fullName Kind.bridge.collection id }
  | .port => .error .methodNotAllowed

/-- The request to delete a resource of a kind. -/
def deleteRequest : Kind → DeleteRequest → Request
  | .vrf => .deleteVrf
  | .bridge => .deleteBridge
  | .port => .deletePort

/-- The question that a message asks. `HEAD` asks like `GET`. -/
def interpret (message : Message) : Except Fault Question :=
  match Endpoint.ofPath? message.target.path, message.method with
  | none, _ => .error .unknownPath
  | some .health, .get | some .health, .head => .ok .health
  | some (.collection kind), .get | some (.collection kind), .head => do
    return .gateway (listRequest kind (← queryPage message.target))
  | some (.collection kind), .post => .gateway <$> createRequest message kind
  | some (.item kind id), .get | some (.item kind id), .head => do
    return .gateway (getRequest kind (fullName kind.collection (← readId id)))
  | some (.item kind id), .patch => .gateway <$> updateRequest message id kind
  | some (.item kind id), .delete => do
    let name := fullName kind.collection (← readId id)
    let allowMissing ← queryFlag message.target "allow_missing"
    return .gateway (deleteRequest kind { name, allowMissing })
  | some _, _ => .error .methodNotAllowed

end EvpnGateway.Http
