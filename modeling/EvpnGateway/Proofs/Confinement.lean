import EvpnGateway.Backend.Simulation
import EvpnGateway.Proofs.Commit
import EvpnGateway.Proofs.Surface
/-!
# Confinement of messages

A message to a collection leaves the other collections alone. In its own it reaches one entry at
most: that of the id in its path, or that of the id which a new resource gets. What its body gives
for a name does not matter.

* `Intent.kind`, `name?`, `creates`, **`step_confined`**: only the entry that a request is about may
  change; `decide_ill_named`: ill-formed names are refused;
* `handle_cases`: a message is served as a request, or answered without one;
* `Message.Under`, `Endpoint.kind_of_under`: messages to a collection, whatever comes behind it;
* `Message.Addresses`, `Asks.addresses`: the entry that a message is about;
* **`Gateway.Reachable.messages_confined`**.
-/

namespace EvpnGateway

/-! ## The entry that a request is about -/

namespace Intent

/-- The kind of the resources that are meant. -/
def kind : Intent → Kind
  | create _ new => new.kind
  | update requested => requested.kind
  | get kind _ | delete kind _ | list kind _ => kind

/-- The name of the resource that is meant; a listing means none in particular. -/
def name? : Intent → Option String
  | create _ new => some new.name
  | update requested => some requested.name
  | get _ name => some name
  | delete _ request => some request.name
  | list .. => none

/-- A new resource is wanted. -/
def creates : Intent → Bool
  | create .. => true
  | _ => false

end Intent

namespace Gateway

variable {σ : Type} {gateway : Gateway} {draw : Draw} {intent : Intent} {kind : Kind}
  {name : String} {error : GatewayError}

/-- **Only the entry that a request is about may change.** -/
theorem step_confined (sound : gateway.Sound) (backends : Backends σ) (draw : Draw)
    (request : Request) (state : σ)
    (h : (gateway.step backends draw request state).gateway.find? kind name ≠
      gateway.find? kind name) :
    (gateway.intent draw request).kind = kind ∧
      (gateway.intent draw request).name? = some name := by
  rcases (step_change sound backends draw request state).find?_cases kind name with
    hsame | ⟨new, hcreate, rfl, rfl, -, -⟩ | ⟨deletion, hdelete, rfl, -⟩
  · exact absurd hsame h
  · rw [hcreate]
    exact ⟨rfl, rfl⟩
  · rw [hdelete]
    exact ⟨rfl, rfl⟩

theorem entries_eq_of_find? {other : Gateway}
    (h : ∀ name, gateway.find? kind name = other.find? kind name) :
    gateway.entries kind = other.entries kind := by
  cases kind with
  | vrf =>
    have hstore : gateway.vrfs = other.vrfs := Store.ext_get? fun name =>
      Option.map_injective (fun _ _ => Resource.vrf.inj) (h name)
    rw [entries, hstore, entries]
  | bridge =>
    have hstore : gateway.bridges = other.bridges := Store.ext_get? fun name =>
      Option.map_injective (fun _ _ => Resource.bridge.inj) (h name)
    rw [entries, hstore, entries]
  | port =>
    have hstore : gateway.ports = other.ports := Store.ext_get? fun name =>
      Option.map_injective (fun _ _ => Resource.port.inj) (h name)
    rw [entries, hstore, entries]

theorem decide_ill_named (hname : intent.name? = some name)
    (hcheck : checkName intent.kind.collection name = .error error)
    (hcreate : intent.creates = false) :
    gateway.decide draw intent = .error error := by
  cases intent with
  | create check new => cases hcreate
  | update requested =>
    obtain rfl := Option.some.inj hname
    simp only [Intent.kind] at hcheck
    simp only [decide, stored, hcheck, Except.bind]
  | get kind name =>
    obtain rfl := Option.some.inj hname
    simp only [Intent.kind] at hcheck
    simp only [decide, stored, hcheck, Except.map]
  | delete kind request =>
    obtain rfl := Option.some.inj hname
    simp only [Intent.kind] at hcheck
    simp only [decide, hcheck, Except.bind]
  | list kind request => cases hname

end Gateway

/-! ## Ids that no name holds -/

theorem invalidArgument_of_checkName {collection name : String} {error : GatewayError}
    (h : checkName collection name = .error error) : ∃ reason, error = .invalidArgument reason := by
  unfold checkName at h
  split_ifs at h
  · exact ⟨_, (Except.error.inj h).symm⟩
  · split at h
    · exact ⟨_, (Except.error.inj h).symm⟩
    · split_ifs at h
      exact ⟨_, (Except.error.inj h).symm⟩

theorem checkName_fullName_refused {id : String} (collection : String)
    (h : '/' ∈ id.toList ∨ ∃ c ∈ id.toList, isBlank c = true) :
    ∃ reason, checkName collection (fullName collection id) = .error (.invalidArgument reason) := by
  cases hcheck : checkName collection (fullName collection id) with
  | error error =>
    obtain ⟨reason, rfl⟩ := invalidArgument_of_checkName hcheck
    exact ⟨reason, rfl⟩
  | ok =>
    exfalso
    have hid : IsSegment id := checkName_fullName_iff.mp hcheck
    rcases h with hmem | ⟨c, hmem, hc⟩
    · exact hid.slash hmem
    · exact nomatch hc.symm.trans (hid.blank c hmem)

namespace Http

/-! ## Messages to a collection -/

/-- The kind of resources that an endpoint is about. -/
def Endpoint.kind? : Endpoint → Option Kind
  | health => none
  | collection kind | item kind _ => some kind

/-- The path of the message is that of a collection, or goes on behind it in whatever way. -/
def Message.Under (message : Message) (kind : Kind) : Prop :=
  message.target.path = (Endpoint.collection kind).path ∨
    (Endpoint.collection kind).path ++ ['/'] <+: message.target.path

section Messages

variable {message : Message} {endpoint : Endpoint} {kind : Kind} {request : Request}
  {id : List Char} {plain : String}

theorem Message.SentTo.unique {other : Endpoint} (h : message.SentTo endpoint)
    (hother : message.SentTo other) : endpoint = other :=
  Option.some.inj ((sentTo_iff.mp h).symm.trans (sentTo_iff.mp hother))

theorem collection_injective : Function.Injective fun kind : Kind => kind.collection.toList := by
  intro one other hsame
  exact Option.some.inj ((kindOf?_eq_some_iff.mpr hsame).symm.trans (kindOf?_eq_some_iff.mpr rfl))

theorem Message.Under.split (h : message.Under kind) :
    ∃ rest, EvpnGateway.split '/' message.target.path =
      [] :: ['v', '1'] :: kind.collection.toList :: rest := by
  rcases h with hpath | ⟨rest, hpath⟩
  · exact ⟨[], by rw [hpath, @Endpoint.split_path (.collection kind) trivial]⟩
  · rw [← hpath, List.append_assoc]
    exact ⟨EvpnGateway.split '/' rest, Endpoint.split_behind kind rest⟩

theorem Endpoint.kind_of_under (h : message.Under kind) (place : message.SentTo endpoint) :
    endpoint.kind? = some kind := by
  obtain ⟨rest, hsplit⟩ := h.split
  rw [← place.2, split_path place.1] at hsplit
  cases endpoint with
  | health => simp at hsplit
  | collection other =>
    simp only [List.cons.injEq] at hsplit
    exact congrArg some (collection_injective hsplit.2.2.1)
  | item other id =>
    simp only [List.cons.injEq] at hsplit
    exact congrArg some (collection_injective hsplit.2.2.1)

/-! ## The entry that a message is about -/

/-- The field of a query with the id of a new resource. -/
def idField : Kind → String
  | .vrf => "vrf_id"
  | .bridge => "logical_bridge_id"
  | .port => "bridge_port_id"

/-- The entry that a message is about: that of the id in its path or, where a resource is to be
created, of the id that the query chooses or that is drawn. -/
inductive Message.Addresses (message : Message) (draw : Draw) : Kind → String → Prop where
  | item {kind : Kind} {id : List Char} {plain : String} (place : message.SentTo (.item kind id))
      (decoded : readId id = .ok plain) :
      Addresses message draw kind (fullName kind.collection plain)
  | new {kind : Kind} {id : String} (place : message.SentTo (.collection kind))
      (method : message.method = .post)
      (query : queryText message.target (idField kind) = .ok id) :
      Addresses message draw kind (assignName kind.collection id draw.id)

theorem Message.Addresses.unique {draw : Draw} {one other : String}
    (h : message.Addresses draw kind one) (hother : message.Addresses draw kind other) :
    one = other := by
  cases h with
  | item place decoded =>
    cases hother with
    | item place' decoded' =>
      cases place.unique place'
      cases decoded.symm.trans decoded'
      rfl
    | new place' => exact nomatch place.unique place'
  | new place method query =>
    cases hother with
    | item place' => exact nomatch place.unique place'
    | new place' method' query' =>
      cases query.symm.trans query'
      rfl

/-- The request that a message stands for is about the entry that the message is about. -/
theorem Asks.addresses (h : Asks message request) (gateway : Gateway) (draw : Draw) :
    (∃ endpoint, message.SentTo endpoint ∧
      endpoint.kind? = some (gateway.intent draw request).kind) ∧
    ∀ name, (gateway.intent draw request).name? = some name →
      message.Addresses draw (gateway.intent draw request).kind name := by
  cases h with
  | list place method query start =>
    rw [Gateway.intent_listRequest]
    exact ⟨⟨_, place, rfl⟩, nofun⟩
  | createVrf place method query body =>
    exact ⟨⟨_, place, rfl⟩, fun _ hname => Option.some.inj hname ▸ .new place method query⟩
  | createBridge place method query body =>
    exact ⟨⟨_, place, rfl⟩, fun _ hname => Option.some.inj hname ▸ .new place method query⟩
  | createPort place method query body =>
    exact ⟨⟨_, place, rfl⟩, fun _ hname => Option.some.inj hname ▸ .new place method query⟩
  | get place method decoded =>
    rw [Gateway.intent_getRequest]
    exact ⟨⟨_, place, rfl⟩, fun _ hname => Option.some.inj hname ▸ .item place decoded⟩
  | updateVrf place method decoded body =>
    exact ⟨⟨_, place, rfl⟩, fun _ hname => Option.some.inj hname ▸ .item place decoded⟩
  | updateBridge place method decoded body =>
    exact ⟨⟨_, place, rfl⟩, fun _ hname => Option.some.inj hname ▸ .item place decoded⟩
  | delete place method decoded query =>
    rw [Gateway.intent_deleteRequest]
    exact ⟨⟨_, place, rfl⟩, fun _ hname => Option.some.inj hname ▸ .item place decoded⟩

/-- What a message to a single resource stands for is about that resource, and creates nothing. -/
theorem Asks.named (h : Asks message request) (place : message.SentTo (.item kind id))
    (decoded : readId id = .ok plain) (gateway : Gateway) (draw : Draw) :
    (gateway.intent draw request).kind = kind ∧
      (gateway.intent draw request).name? = some (fullName kind.collection plain) ∧
      (gateway.intent draw request).creates = false := by
  cases h with
  | list place' | createVrf place' | createBridge place' | createPort place' =>
    exact nomatch place.unique place'
  | get place' method decoded' =>
    cases place.unique place'
    cases decoded.symm.trans decoded'
    rw [Gateway.intent_getRequest]
    exact ⟨rfl, rfl, rfl⟩
  | updateVrf place' method decoded' body | updateBridge place' method decoded' body =>
    cases place.unique place'
    cases decoded.symm.trans decoded'
    exact ⟨rfl, rfl, rfl⟩
  | delete place' method decoded' query =>
    cases place.unique place'
    cases decoded.symm.trans decoded'
    rw [Gateway.intent_deleteRequest]
    exact ⟨rfl, rfl, rfl⟩

end Messages

end Http

namespace Gateway

open Http

variable {σ : Type} {settings : Settings} {gateway : Gateway}

/-- A message is served as the request that it stands for, or answered without any. -/
theorem handle_cases (backends : Backends σ) (gateway : Gateway) (draw : Draw) (message : Message)
    (state : σ) :
    (∃ request, Asks message request ∧ gateway.handle backends draw message state =
      let served := gateway.step backends draw request state
      ⟨message.reply (respond served.answer), served.calls, served.gateway, served.backends⟩) ∨
    ∃ response, gateway.handle backends draw message state =
        ⟨message.reply response, [], gateway, state⟩ ∧
      (Rejection message response ∨ message.SentTo .health) := by
  rw [handle_eq]
  unfold exchange
  have hreading := reading message
  generalize interpret message = result at hreading ⊢
  cases hreading with
  | rejected rejection => exact .inr ⟨_, rfl, .inl rejection⟩
  | health place method => exact .inr ⟨_, rfl, .inr place⟩
  | asked asks => exact .inl ⟨_, asks, rfl⟩

/-- **Messages are confined to the resource that they are about.** A message to a collection changes
no other collection, and in its own no entry but the one that it is about. If it is about a single
resource whose id, in plain text, holds a slash or a blank, it is answered as an invalid argument,
no call is made and nothing changes. -/
theorem Reachable.messages_confined (h : Reachable settings gateway) (backends : Backends σ)
    (draw : Draw) {message : Message} {kind : Kind} (under : message.Under kind) (state : σ) :
    let handled := gateway.handle backends draw message state
    (∀ other, other ≠ kind → handled.gateway.entries other = gateway.entries other) ∧
    (∀ name, ¬ message.Addresses draw kind name →
      handled.gateway.find? kind name = gateway.find? kind name) ∧
    (∀ one other, message.Addresses draw kind one → message.Addresses draw kind other →
      one = other) ∧
    ∀ id plain, message.SentTo (.item kind id) → (Endpoint.item kind id).Allows message.method →
      readId id = .ok plain → ('/' ∈ plain.toList ∨ ∃ c ∈ plain.toList, isBlank c = true) →
      ∃ text, handled = ⟨message.reply ⟨400, .json (.object [("code", .string "INVALID_ARGUMENT"),
        ("message", .string text)])⟩, [], gateway, state⟩ := by
  intro handled
  -- an entry that changes is the one that the message is about
  have hentry : ∀ other name, handled.gateway.find? other name ≠ gateway.find? other name →
      other = kind ∧ message.Addresses draw kind name := by
    intro other name hchanged
    rcases handle_cases backends gateway draw message state with
      ⟨request, hasks, hhandled⟩ | ⟨response, hhandled, -⟩
    · rw [show handled = _ from hhandled] at hchanged
      obtain ⟨rfl, hname⟩ := step_confined h.sound backends draw request state hchanged
      obtain ⟨⟨endpoint, place, hkind⟩, haddresses⟩ := hasks.addresses gateway draw
      have hsame := Option.some.inj (hkind.symm.trans (Endpoint.kind_of_under under place))
      exact ⟨hsame, hsame ▸ haddresses name hname⟩
    · rw [show handled = _ from hhandled] at hchanged
      exact absurd rfl hchanged
  refine ⟨fun other hother => entries_eq_of_find? fun name => ?_, fun name hname => ?_,
    fun one other hone hother => hone.unique hother, fun id plain place hallows hdecoded hill => ?_⟩
  · by_contra hchanged
    exact hother (hentry other name hchanged).1
  · by_contra hchanged
    exact hname (hentry kind name hchanged).2
  · rcases handle_cases backends gateway draw message state with
      ⟨request, hasks, hhandled⟩ | ⟨response, hhandled, hrejected | hhealth⟩
    · obtain ⟨hkind, hname, hcreate⟩ := hasks.named place hdecoded gateway draw
      obtain ⟨reason, hcheck⟩ := checkName_fullName_refused kind.collection hill
      rw [← hkind] at hcheck hname
      have hdecision : gateway.decide draw (gateway.intent draw request) = _ :=
        decide_ill_named hname hcheck hcreate
      rw [step_refused backends state hdecision] at hhandled
      exact ⟨_, hhandled⟩
    · cases hrejected with
      | nowhere hnowhere => exact absurd place (hnowhere _)
      | refused place' hmethod =>
        cases place.unique place'
        exact absurd hallows hmethod
      | unnamed place' hmethod hundecoded =>
        cases place.unique place'
        exact nomatch hdecoded.symm.trans hundecoded
      | invalid place' hmethod hlegible text => exact ⟨text, hhandled⟩
    · exact nomatch place.unique hhealth

/-- A message to delete something that is no VRF, with the id of one behind an encoded slash. -/
theorem Reachable.messages_confined_blue :
    let draw : Draw := ⟨⟨0, 0⟩, .zero, ⟨0, 0⟩⟩
    let served := ({} : Gateway).step Simulation.backends draw (.createVrf "blue" {}) {}
    let message : Message := { method := .delete, target := .parse "/v1/vrfs/red%2Fblue" }
    let handled := served.gateway.handle Simulation.backends draw message served.backends
    Reachable {} served.gateway ∧ served.gateway.resources.map Resource.name = ["vrfs/blue"] ∧
      message.Under .vrf ∧ message.SentTo (.item .vrf "red%2Fblue".toList) ∧
      readId "red%2Fblue".toList = .ok "red/blue" ∧
      (∀ other, other ≠ .vrf → handled.gateway.entries other = served.gateway.entries other) ∧
      ∃ text, handled = ⟨⟨400, .json (.object
        [("code", .string "INVALID_ARGUMENT"), ("message", .string text)])⟩, [], served.gateway,
        served.backends⟩ := by
  intro draw served message handled
  have reachable : Reachable {} served.gateway := .step .fresh ..
  have under : message.Under .vrf := .inr (by decide +kernel)
  have place : message.SentTo (.item .vrf "red%2Fblue".toList) :=
    ⟨⟨by decide, by decide⟩, by decide +kernel⟩
  have decoded : readId "red%2Fblue".toList = .ok "red/blue" := by decide +kernel
  obtain ⟨hothers, -, -, hrefused⟩ :=
    reachable.messages_confined Simulation.backends draw under served.backends
  exact ⟨reachable, by decide +kernel, under, place, decoded, hothers,
    hrefused _ _ place (.inr (.inl rfl)) decoded (.inl (by decide))⟩

end Gateway

end EvpnGateway
