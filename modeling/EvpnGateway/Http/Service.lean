import EvpnGateway.Http.Route
/-!
# The service

* `answerJson`, `respond`: answers and errors of the gateway as responses;
* `Gateway.handle`: a message is interpreted, served over backends and answered.
-/

namespace EvpnGateway.Http

/-- An answer of the gateway in JSON. -/
def answerJson : Answer → Json
  | .vrf vrf => toJson vrf
  | .bridge bridge => toJson bridge
  | .port port => toJson port
  | .deleted => .object []
  | .vrfs listing => toJson listing
  | .bridges listing => toJson listing
  | .ports listing => toJson listing

/-- The response to an answered request. -/
def respond : Except GatewayError Answer → Response
  | .ok answer => ⟨200, .json (answerJson answer)⟩
  | .error error => ⟨error.code.httpStatus, errorContent error.code error.message⟩

/-- What handling a message comes to. -/
structure Handled (σ : Type) where
  response : Response
  /-- The calls that reached the backends, in order. -/
  calls : List Call
  gateway : Gateway
  backends : σ

/-- Handles a message, content and all. -/
def exchange {σ : Type} (backends : Backends σ) (gateway : Gateway) (draw : Draw)
    (message : Message) (state : σ) : Handled σ :=
  match interpret message with
  | .error fault => ⟨fault.response, [], gateway, state⟩
  | .ok .health => ⟨⟨200, .json (.object [("status", .string "ok")])⟩, [], gateway, state⟩
  | .ok (.gateway request) =>
    let served := gateway.step backends draw request state
    ⟨respond served.answer, served.calls, served.gateway, served.backends⟩

end EvpnGateway.Http

namespace EvpnGateway

open Http in
/-- Handles a message. The response to `HEAD` has no content. -/
def Gateway.handle {σ : Type} (backends : Backends σ) (gateway : Gateway) (draw : Draw)
    (message : Message) (state : σ) : Handled σ :=
  let handled := exchange backends gateway draw message state
  if message.method = .head then { handled with response := handled.response.bare } else handled

end EvpnGateway
