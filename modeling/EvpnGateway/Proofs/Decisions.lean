import EvpnGateway.Http.Route
import EvpnGateway.Proofs.Resources
/-!
# Decisions

What a request comes to is settled before the first call, up to the answers of the backends.

* `Intent`, `Gateway.intent`: what a request wants, whatever the kind of its resource;
* `Undertaking`, `Undertaking.plan`: calls, and the answer and the state if all of them succeed;
* `Gateway.decide`: an intent is refused or becomes an undertaking;
* `Lifecycle.Embeds`: a lifecycle does for its kind what is done for resources of all kinds;
* **`serve_plan`**: serving a request is carrying out the decision about it.
-/

namespace EvpnGateway

open Interaction (done ask)

/-! ## Intents -/

/-- What a request wants, whatever the kind of the resource. -/
inductive Intent where
  /-- A new resource, if the check of the request does not fail. -/
  | create (check : Check) (new : Resource)
  | update (requested : Resource)
  | get (kind : Kind) (name : String)
  | delete (kind : Kind) (request : DeleteRequest)
  | list (kind : Kind) (request : ListRequest)

/-- The intent behind a request. -/
def Gateway.intent (gateway : Gateway) (draw : Draw) : Request → Intent
  | .createVrf id vrf =>
    .create (checkInterfaceId "vrf_id" id) (.vrf (gateway.newVrf draw id vrf.spec))
  | .createBridge id bridge =>
    .create (checkOptionalId id) (.bridge (Gateway.newBridge draw id bridge.spec))
  | .createPort id port =>
    .create (checkPort id port.spec) (.port (Gateway.newPort draw id port.spec))
  | .updateVrf vrf => .update (.vrf vrf)
  | .updateBridge bridge => .update (.bridge bridge)
  | .getVrf name => .get .vrf name
  | .getBridge name => .get .bridge name
  | .getPort name => .get .port name
  | .deleteVrf request => .delete .vrf request
  | .deleteBridge request => .delete .bridge request
  | .deletePort request => .delete .port request
  | .listVrfs request => .list .vrf request
  | .listBridges request => .list .bridge request
  | .listPorts request => .list .port request

namespace Gateway

variable (gateway : Gateway) (draw : Draw) (kind : Kind)

@[simp] theorem intent_getRequest (name : String) :
    gateway.intent draw (Http.getRequest kind name) = .get kind name := by cases kind <;> rfl

@[simp] theorem intent_deleteRequest (request : DeleteRequest) :
    gateway.intent draw (Http.deleteRequest kind request) = .delete kind request := by
  cases kind <;> rfl

@[simp] theorem intent_listRequest (request : ListRequest) :
    gateway.intent draw (Http.listRequest kind request) = .list kind request := by
  cases kind <;> rfl

end Gateway

/-! ## Undertakings -/

/-- Makes calls one after the other and ends with a value and a new state; the first error ends it
before. -/
def conclude {α : Type} (gateway : Gateway) (value : α) (after : Gateway) :
    List Call → Plan (Except GatewayError α × Gateway)
  | [] => done (.ok value, after)
  | call :: calls => ask call fun
    | .ok _ => conclude gateway value after calls
    | .error error => done (.error error, gateway)

/-- What is done about a request that is not refused. -/
inductive Undertaking where
  /-- Calls for their effect. -/
  | perform (calls : List Call) (answer : Answer) (after : Gateway)
  /-- A link is looked up and brought into force again. -/
  | renew (device : String) (answer : Answer) (after : Gateway)

/-- The answer to a request when nothing fails. -/
def Undertaking.answer : Undertaking → Answer
  | perform _ answer _ | renew _ answer _ => answer

/-- The gateway after a request when nothing fails. -/
def Undertaking.after : Undertaking → Gateway
  | perform _ _ after | renew _ _ after => after

/-- The plan of an undertaking. -/
def Undertaking.plan (gateway : Gateway) :
    Undertaking → Plan (Except GatewayError Answer × Gateway)
  | perform calls answer after => conclude gateway answer after calls
  | renew device answer after => ask (.linkByName device) fun
    | .ok link => conclude gateway answer after [.linkModify link]
    | .error error => done (.error error, gateway)

/-- The plan of a decision; a refusal makes no calls. -/
def decisionPlan (gateway : Gateway) :
    Except GatewayError Undertaking → Plan (Except GatewayError Answer × Gateway)
  | .ok undertaking => undertaking.plan gateway
  | .error error => done (.error error, gateway)

/-! ## Decisions -/

namespace Resource

/-- The calls that look for the links of a stored resource. -/
def probe : Resource → List Call
  | vrf v => Vrf.lifecycle.probe v
  | bridge b => LogicalBridge.lifecycle.probe b
  | port p => BridgePort.lifecycle.probe p

/-- The calls that take a resource down. -/
def teardown (settings : Settings) : Resource → List Call
  | vrf v => v.teardown settings
  | bridge b => b.teardown settings
  | port p => p.teardown

/-- The link that an update brings into force again. -/
def renewal? : Resource → Option String
  | vrf v => Vrf.revision.device? v
  | bridge b => LogicalBridge.revision.device? b
  | port _ => none

/-- What an update may not change. -/
def checkUnchanged : (stored requested : Resource) → Check
  | vrf v, vrf requested => Vrf.revision.unchanged v requested
  | bridge b, bridge requested => LogicalBridge.revision.unchanged b requested
  | _, _ => .ok ()

/-- A stored resource with the specification of another. -/
def revised : (stored requested : Resource) → Resource
  | vrf v, vrf requested => vrf (Vrf.revision.revised v requested)
  | bridge b, bridge requested => bridge (LogicalBridge.revision.revised b requested)
  | stored, _ => stored

end Resource

namespace Gateway

/-- The calls that set up a new resource, if what is stored allows for it. -/
def realization (gateway : Gateway) : Resource → Except GatewayError (List Call)
  | .vrf vrf => Vrf.lifecycle.realization gateway vrf
  | .bridge bridge => LogicalBridge.lifecycle.realization gateway bridge
  | .port port => BridgePort.lifecycle.realization gateway port

/-- The page of a kind that a request asks for, and the tokens after it. -/
def paged (gateway : Gateway) (draw : Draw) (request : ListRequest) :
    Kind → Except GatewayError (Answer × PageTokens)
  | .vrf => (gateway.tokens.paginate draw.token gateway.vrfs.toList request).map
    (Prod.map Answer.vrfs id)
  | .bridge => (gateway.tokens.paginate draw.token gateway.bridges.toList request).map
    (Prod.map Answer.bridges id)
  | .port => (gateway.tokens.paginate draw.token gateway.ports.toList request).map
    (Prod.map Answer.ports id)

/-- The stored resource of a kind and a well-formed name. -/
def stored (gateway : Gateway) (kind : Kind) (name : String) : Except GatewayError Resource :=
  match checkName kind.collection name with
  | .error error => .error error
  | .ok () => match gateway.find? kind name with
    | some resource => .ok resource
    | none => .error (.notFound name)

/-- What is done about a new resource that passed the check of its request. -/
def establish (gateway : Gateway) (new : Resource) : Except GatewayError Undertaking :=
  match gateway.find? new.kind new.name with
  | some existing => .ok (.perform [] existing.answer gateway)
  | none => (gateway.realization new).map (.perform · new.answer (gateway.put new))

/-- A link, if there is one, is brought into force again, and a resource is written. -/
def renew (gateway : Gateway) (device? : Option String) (resource : Resource) : Undertaking :=
  match device? with
  | some device => .renew device resource.answer (gateway.put resource)
  | none => .perform [] resource.answer (gateway.put resource)

/-- What is done about an update of a stored resource. -/
def revise (gateway : Gateway) (existing requested : Resource) :
    Except GatewayError Undertaking :=
  (existing.checkUnchanged requested).map fun () =>
    gateway.renew existing.renewal? ((existing.revised requested).reported gateway.settings)

/-- What is done about a request to delete. -/
def dismiss (gateway : Gateway) (kind : Kind) (request : DeleteRequest) :
    Except GatewayError Undertaking :=
  match gateway.find? kind request.name with
  | some resource =>
    .ok (.perform (resource.teardown gateway.settings) .deleted (gateway.drop kind request.name))
  | none =>
    if request.allowMissing then .ok (.perform [] .deleted gateway)
    else .error (.notFound request.name)

/-- The decision about an intent: an error, or what is done. -/
def decide (gateway : Gateway) (draw : Draw) : Intent → Except GatewayError Undertaking
  | .create check new => check.bind fun () => gateway.establish new
  | .update requested =>
    (gateway.stored requested.kind requested.name).bind (gateway.revise · requested)
  | .get kind name => (gateway.stored kind name).map fun resource =>
    .perform resource.probe (resource.reported gateway.settings).answer gateway
  | .delete kind request =>
    (checkName kind.collection request.name).bind fun () => gateway.dismiss kind request
  | .list kind request => (gateway.paged draw request kind).map fun (answer, tokens) =>
    .perform [] answer { gateway with tokens }

end Gateway

/-! ## Carrying out decisions -/

section Plans

variable {α β : Type}

theorem conclude_map (f : α → β) (gateway : Gateway) (value : α) (after : Gateway)
    (calls : List Call) :
    (conclude gateway value after calls >>=
      Action.proceed fun value after => done (.ok (f value), after)) =
      conclude gateway (f value) after calls := by
  induction calls with
  | nil => rfl
  | cons call calls ih =>
    refine congrArg (ask call) (funext fun reply => ?_)
    cases reply with
    | ok value => exact ih
    | error error => rfl

theorem plan_perform_bind {calls : List Call} {next : Action α} {value : α}
    {gateway after : Gateway} (h : next.plan gateway = done (.ok value, after)) :
    (liftM (Operation.perform calls) >>= fun _ => next).plan gateway =
      conclude gateway value after calls := by
  rw [Action.plan_lift_bind]
  induction calls with
  | nil => exact h
  | cons call calls ih =>
    rw [Operation.plan_perform_cons]
    refine congrArg (ask call) (funext fun reply => ?_)
    cases reply with
    | ok value => exact ih
    | error error => rfl

end Plans

namespace Lifecycle

variable {α : Type} [Named α] {lifecycle : Lifecycle α} {revision : Revision α}
  {wrap : α → Resource} {gateway : Gateway} {draw : Draw}

/-- A lifecycle does for its kind what is done for resources of all kinds. -/
structure Embeds (lifecycle : Lifecycle α) (wrap : α → Resource) : Prop where
  kind : ∀ entry, (wrap entry).kind = lifecycle.kind
  name : ∀ entry, (wrap entry).name = Named.name entry
  find? : ∀ gateway name,
    Gateway.find? gateway lifecycle.kind name = ((lifecycle.store gateway).get? name).map wrap
  put : ∀ gateway entry,
    Gateway.put gateway (wrap entry) =
      lifecycle.replace gateway ((lifecycle.store gateway).insert entry)
  drop : ∀ gateway name,
    Gateway.drop gateway lifecycle.kind name =
      lifecycle.replace gateway ((lifecycle.store gateway).erase name)
  realization : ∀ gateway entry,
    Gateway.realization gateway (wrap entry) = lifecycle.realization gateway entry
  teardown : ∀ settings entry, (wrap entry).teardown settings = lifecycle.teardown settings entry
  probe : ∀ entry, (wrap entry).probe = lifecycle.probe entry
  reported : ∀ settings entry,
    (wrap entry).reported settings = wrap (lifecycle.report settings entry)

/-- The same for updates. -/
structure Revises (revision : Revision α) (wrap : α → Resource) : Prop where
  renewal? : ∀ entry, (wrap entry).renewal? = revision.device? entry
  unchanged : ∀ stored requested,
    (wrap stored).checkUnchanged (wrap requested) = revision.unchanged stored requested
  revised : ∀ stored requested,
    (wrap stored).revised (wrap requested) = wrap (revision.revised stored requested)

theorem embeds_vrf : Vrf.lifecycle.Embeds .vrf := by constructor <;> intros <;> rfl

theorem embeds_bridge : LogicalBridge.lifecycle.Embeds .bridge := by constructor <;> intros <;> rfl

theorem embeds_port : BridgePort.lifecycle.Embeds .port := by constructor <;> intros <;> rfl

theorem revises_vrf : Revises Vrf.revision .vrf := by constructor <;> intros <;> rfl

theorem revises_bridge : Revises LogicalBridge.revision .bridge := by constructor <;> intros <;> rfl

theorem Embeds.create_plan (h : lifecycle.Embeds wrap) (check : Check) (new : Gateway → α) :
    ((fun entry => (wrap entry).answer) <$> lifecycle.create check new).plan gateway =
      decisionPlan gateway (gateway.decide draw (.create check (wrap (new gateway)))) := by
  rw [Action.plan_map, create, Action.plan_ofExcept_bind, Gateway.decide]
  cases check with
  | error error => rfl
  | ok =>
    simp only [Action.plan_get_bind, Except.bind, Gateway.establish, h.kind, h.name, h.find?]
    cases (lifecycle.store gateway).get? (Named.name (new gateway)) with
    | some existing => rfl
    | none =>
      dsimp only [Option.map_none]
      rw [Action.plan_ofExcept_bind, h.realization]
      cases lifecycle.realization gateway (new gateway) with
      | error error => rfl
      | ok calls =>
        dsimp only
        rw [plan_perform_bind (Action.plan_set_bind ..), conclude_map, ← h.put]
        rfl

theorem Embeds.delete_plan (h : lifecycle.Embeds wrap) (request : DeleteRequest) :
    ((fun () => Answer.deleted) <$> lifecycle.delete request).plan gateway =
      decisionPlan gateway (gateway.decide draw (.delete lifecycle.kind request)) := by
  rw [Action.plan_map, delete, Action.plan_ofExcept_bind, Gateway.decide]
  cases checkName lifecycle.kind.collection request.name with
  | error error => rfl
  | ok =>
    simp only [Action.plan_get_bind, Except.bind, Gateway.dismiss, h.find?]
    cases hfound : (lifecycle.store gateway).get? request.name with
    | some entry =>
      dsimp only [Option.map_some]
      rw [plan_perform_bind (Action.plan_set ..), conclude_map, Store.name_of_get? hfound,
        h.teardown, h.drop]
      rfl
    | none =>
      dsimp only [Option.map_none]
      split_ifs <;> rfl

theorem Embeds.look_plan (h : lifecycle.Embeds wrap) (name : String) :
    ((fun entry => (wrap entry).answer) <$> lifecycle.look name).plan gateway =
      decisionPlan gateway (gateway.decide draw (.get lifecycle.kind name)) := by
  rw [Action.plan_map, look, Action.plan_ofExcept_bind, Gateway.decide, Gateway.stored]
  cases checkName lifecycle.kind.collection name with
  | error error => rfl
  | ok =>
    simp only [Action.plan_get_bind, Action.plan_stored_bind, h.find?]
    cases (lifecycle.store gateway).get? name with
    | none => rfl
    | some entry =>
      dsimp only [Option.map_some]
      rw [plan_perform_bind (Action.plan_pure ..), conclude_map]
      simp only [Except.map, h.probe, h.reported]
      rfl

theorem Embeds.update_plan (h : lifecycle.Embeds wrap) (hrevision : Revises revision wrap)
    (requested : α) :
    ((fun entry => (wrap entry).answer) <$> lifecycle.update revision requested).plan gateway =
      decisionPlan gateway (gateway.decide draw (.update (wrap requested))) := by
  rw [Action.plan_map, update, Action.plan_ofExcept_bind, Gateway.decide, Gateway.stored, h.kind,
    h.name]
  cases checkName lifecycle.kind.collection (Named.name requested) with
  | error error => rfl
  | ok =>
    simp only [Action.plan_get_bind, Action.plan_stored_bind, h.find?]
    cases (lifecycle.store gateway).get? (Named.name requested) with
    | none => rfl
    | some entry =>
      simp only [Option.map_some, Action.plan_ofExcept_bind, Except.bind, Gateway.revise,
        Gateway.renew, hrevision.unchanged, hrevision.renewal?, hrevision.revised, h.reported,
        h.put]
      cases revision.unchanged entry requested with
      | error error => rfl
      | ok =>
        cases revision.device? entry with
        | none => rfl
        | some device =>
          refine congrArg (ask _) (funext fun reply => ?_)
          rcases reply with error | link
          · rfl
          · refine congrArg (ask _) (funext fun reply => ?_)
            cases reply <;> rfl

theorem page_plan (lifecycle : Lifecycle α) (present : Listing α → Answer)
    (request : ListRequest) :
    (present <$> lifecycle.page draw request).plan gateway =
      decisionPlan gateway
        (((gateway.tokens.paginate draw.token (lifecycle.store gateway).toList request).map
          (Prod.map present id)).map fun (answer, tokens) =>
            .perform [] answer { gateway with tokens }) := by
  rw [Action.plan_map, page]
  simp only [Action.plan_get_bind, Action.plan_ofExcept_bind]
  cases gateway.tokens.paginate draw.token (lifecycle.store gateway).toList request <;> rfl

end Lifecycle

open Lifecycle in
/-- **Serving a request is carrying out the decision about it.** -/
theorem serve_plan (gateway : Gateway) (draw : Draw) (request : Request) :
    (Gateway.serve draw request).plan gateway =
      decisionPlan gateway (gateway.decide draw (gateway.intent draw request)) := by
  cases request with
  | createVrf id vrf => exact embeds_vrf.create_plan ..
  | updateVrf vrf => exact embeds_vrf.update_plan revises_vrf ..
  | getVrf name => exact embeds_vrf.look_plan ..
  | deleteVrf request => exact embeds_vrf.delete_plan ..
  | listVrfs request => exact page_plan Vrf.lifecycle ..
  | createBridge id bridge => exact embeds_bridge.create_plan ..
  | updateBridge bridge => exact embeds_bridge.update_plan revises_bridge ..
  | getBridge name => exact embeds_bridge.look_plan ..
  | deleteBridge request => exact embeds_bridge.delete_plan ..
  | listBridges request => exact page_plan LogicalBridge.lifecycle ..
  | createPort id port => exact embeds_port.create_plan ..
  | getPort name => exact embeds_port.look_plan ..
  | deletePort request => exact embeds_port.delete_plan ..
  | listPorts request => exact page_plan BridgePort.lifecycle ..

end EvpnGateway
