import EvpnGateway.Json.Value
import EvpnGateway.Text.Split
import EvpnGateway.Text.Utf8
/-!
# Requests and responses

* `Http.Method`, `Http.Message`: what comes in; `Http.Target`: the parts of a request target;
* `Http.Body`: the bytes of a request, and `Http.Body.source`: what a reader of texts makes of them;
* `Http.Response`: what goes out.
-/

namespace EvpnGateway.Http

/-- The methods that the service tells apart. -/
inductive Method where
  | get
  | head
  | post
  | patch
  | delete
  | other (name : String)
  deriving DecidableEq, Repr

/-- The method of a name; names are case-sensitive. -/
def Method.ofName : String → Method
  | "GET" => get
  | "HEAD" => head
  | "POST" => post
  | "PATCH" => patch
  | "DELETE" => delete
  | name => other name

/-- The parts of a request target that the service looks at. -/
structure Target where
  path : List Char
  query : List Char
  deriving DecidableEq, Repr

/-- The path and the query behind scheme and authority, if a target has those. -/
def Target.hierarchy (text : List Char) : List Char :=
  if text.head? = some '/' then text
  else match splitFirst? ':' text with
    | some (_, '/' :: '/' :: rest) => rest.dropWhile fun c => c ≠ '/' && c ≠ '?'
    | _ => text

/-- Cuts a target at the first question mark, and drops a fragment. -/
def Target.parse (text : String) : Target :=
  let text := hierarchy (text.toList.takeWhile (· ≠ '#'))
  match splitFirst? '?' text with
  | some (path, query) => ⟨path, query⟩
  | none => ⟨text, []⟩

/-- The bytes behind the headers of a request. They need not be text. -/
structure Body where
  bytes : List UInt8
  deriving DecidableEq, Repr

/-- A text as a body. -/
instance : Coe String Body := ⟨fun text => ⟨Utf8.encode text⟩⟩

/-- What an ill-formed unit shows as: the escape of a lone surrogate. The letter keeps a backslash
in front of the unit from taking the one of the escape. -/
def Body.stray : List Char := "x\\udfff".toList

/-- What a unit of a body shows as. -/
def Body.shown : Option Char → List Char
  | some c => [c]
  | none => stray

/-- A body for readers of texts. A reader of JSON passes over an ill-formed unit with the string it
stands in, and finds fault with it everywhere else. -/
def Body.source (body : Body) : String := String.ofList ((Utf8.units body.bytes).flatMap shown)

/-- A request as it comes in. -/
structure Message where
  method : Method
  target : Target
  /-- The value of the `Content-Type` header. -/
  contentType : Option String := none
  body : Body := ""
  deriving DecidableEq, Repr

/-- The content of a response. -/
inductive Content where
  | empty
  | text (value : String)
  | json (value : Json)
  deriving Repr

/-- A response. -/
structure Response where
  status : Nat
  content : Content
  deriving Repr

/-- A response without its content. -/
def Response.bare (response : Response) : Response := { response with content := .empty }

end EvpnGateway.Http
