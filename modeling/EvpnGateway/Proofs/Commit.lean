import EvpnGateway.Backend.Simulation
import EvpnGateway.Proofs.Reachable
/-!
# Commit discipline

A request writes at its end and only when all of its calls succeeded.

* `gateway_of_error`: an error leaves the gateway as it was;
* `last_of_failed`: the first failure is the last call and the answer;
* `step_perform`: calls for their effect are all made, or nothing is written;
* `Intent.looks`, `question_of_mem_exchanges`: the calls that are made for a request;
  `takesDown_of_exchange`: only what is to be deleted is taken down;
* `LinksThenRouting`: resources are set up and taken down with link calls first;
* `Change.find?_cases`: entries that a request does not name stay;
* `find?_create_iff`, `find?_delete_iff`: when an entry is added and when it is removed;
* **`Reachable.commit_discipline`**.
-/

namespace EvpnGateway

/-- A stored resource is to be shown or to be updated. -/
def Intent.looks : Intent → Bool
  | update _ | get .. => true
  | create .. | delete .. | list .. => false

namespace Gateway

variable {σ : Type} {settings : Settings} {gateway after : Gateway} {draw : Draw}
  {request : Request} {error : GatewayError} {answer : Answer} {calls : List Call}
  {backends : Backends σ} {state : σ} {resource new : Resource} {kind : Kind} {name : String}

/-! ## Errors -/

theorem gateway_of_error (h : (gateway.step backends draw request state).answer = .error error) :
    (gateway.step backends draw request state).gateway = gateway := by
  cases step_course backends gateway draw request state with
  | refused error decision answer same silent => exact same
  | failed undertaking before call error decision answer same last passed => exact same
  | done undertaking decision answer after passed => exact nomatch answer.symm.trans h

/-- An error without a failing call came before all calls. -/
theorem silent_of_error (h : (gateway.step backends draw request state).answer = .error error)
    (hall : ∀ exchange ∈ gateway.exchanges backends draw request state, exchange.succeeded) :
    gateway.exchanges backends draw request state = [] := by
  cases step_course backends gateway draw request state with
  | refused error decision answer same silent => exact silent
  | failed undertaking before call error decision answer same last passed =>
    rw [last] at hall
    exact nomatch hall _ (List.mem_append_right before (List.mem_singleton_self _))
  | done undertaking decision answer after passed => exact nomatch answer.symm.trans h

/-- The first failing call is the last one, and its error is the answer. -/
theorem last_of_failed {before rest : List (Exchange Call Call.Reply)} {call : Call}
    (h : gateway.exchanges backends draw request state = before ++ ⟨call, .error error⟩ :: rest) :
    rest = [] ∧ (gateway.step backends draw request state).answer = .error error := by
  have hmem : ⟨call, .error error⟩ ∈ gateway.exchanges backends draw request state := by
    rw [h]
    exact List.mem_append_right before List.mem_cons_self
  cases step_course backends gateway draw request state with
  | refused error' decision answer same silent =>
    rw [silent] at hmem
    exact absurd hmem List.not_mem_nil
  | failed undertaking earlier call' error' decision answer same last passed =>
    rw [last] at h
    rcases rest.eq_nil_or_concat with rfl | ⟨rest, final, rfl⟩
    · obtain ⟨-, hsame⟩ := List.append_inj' h rfl
      cases hsame
      exact ⟨rfl, answer⟩
    · -- then the failing call would be one of those that passed
      rw [List.concat_eq_append, ← List.cons_append, ← List.append_assoc] at h
      obtain ⟨rfl, -⟩ := List.append_inj' h rfl
      exact nomatch passed _ (List.mem_append_right before List.mem_cons_self)
  | done undertaking decision answer after passed => exact nomatch passed _ hmem

/-! ## Calls -/

/-- The calls that are made are the first of those that would be made without failures. -/
theorem calls_prefix_mended (backends : Backends σ) (gateway : Gateway) (draw : Draw)
    (request : Request) (state : σ) (link : LiveLink) :
    (gateway.step backends draw request state).calls <+:
      (gateway.step (backends.mended link) draw request state).calls := by
  cases hdecision : gateway.decide draw (gateway.intent draw request) with
  | error error =>
    rw [step_refused backends state hdecision]
    exact List.nil_prefix
  | ok undertaking =>
    rw [step_undertaken backends state hdecision, step_undertaken _ state hdecision]
    exact (undertaking.commits gateway).asked_prefix_mended backends link state

theorem step_perform (backends : Backends σ) (state : σ) (link : LiveLink)
    (h : gateway.decide draw (gateway.intent draw request) = .ok (.perform calls answer after)) :
    (gateway.step (backends.mended link) draw request state).calls = calls ∧
      ((gateway.step backends draw request state).gateway = after ∧
          (gateway.step backends draw request state).calls = calls ∧
          (∀ exchange ∈ gateway.exchanges backends draw request state, exchange.succeeded) ∨
        (gateway.step backends draw request state).gateway = gateway ∧
          ¬ ∀ exchange ∈ gateway.exchanges backends draw request state, exchange.succeeded) := by
  have hcommits := commits_conclude gateway answer after calls
  rw [step_undertaken backends state h, step_undertaken _ state h, exchanges_undertaken _ state h]
  refine ⟨asked_conclude_mended calls backends link state, ?_⟩
  rcases hcommits.run_cases backends state with
    ⟨hresult, hall⟩ | ⟨before, call, error, hresult, hlast, -⟩
  · refine .inl ⟨congrArg Prod.snd hresult, ?_, hall⟩
    exact (hcommits.asked_eq_mended backends link state hall).trans
      (asked_conclude_mended calls backends link state)
  · refine .inr ⟨congrArg Prod.snd hresult, fun hall => ?_⟩
    rw [Undertaking.plan, hlast] at hall
    exact nomatch hall _ (List.mem_append_right before (List.mem_singleton_self _))

/-- **The calls that are made for a request**: those that set up what is new, those that take down
what is to be deleted, and those that look for the devices of what is stored and renew them. -/
theorem question_of_mem_exchanges (property : Call → Prop) {exchange : Exchange Call Call.Reply}
    (realized : ∀ new calls, gateway.intent draw request = .create (.ok ()) new →
      gateway.realization new = .ok calls → ∀ call ∈ calls, property call)
    (torn : ∀ kind deletion resource, gateway.intent draw request = .delete kind deletion →
      gateway.find? kind deletion.name = some resource →
      gateway.decide draw (gateway.intent draw request) =
        .ok (.perform (resource.teardown gateway.settings) .deleted
          (gateway.drop kind deletion.name)) →
      ∀ call ∈ resource.teardown gateway.settings, property call)
    (looked : (gateway.intent draw request).looks → ∀ resource ∈ gateway.resources,
      ∀ device ∈ resource.devices, property (.linkByName device))
    (modified : ∀ link, property (.linkModify link))
    (h : exchange ∈ gateway.exchanges backends draw request state) :
    property exchange.question := by
  cases hdecision : gateway.decide draw (gateway.intent draw request) with
  | error error =>
    rw [exchanges_refused backends state hdecision] at h
    exact absurd h List.not_mem_nil
  | ok undertaking =>
    rw [exchanges_undertaken backends state hdecision] at h
    refine Interaction.Asks.of_mem_dialogue ?_ h
    cases hintent : gateway.intent draw request with
    | create check new =>
      rw [hintent] at hdecision
      obtain ⟨rfl, ⟨existing, -, rfl⟩ | ⟨-, calls, hcalls, rfl⟩⟩ := decide_create hdecision
      · exact asks_conclude (by simp)
      · exact asks_conclude (realized new calls hintent hcalls)
    | update requested =>
      rw [hintent] at hdecision looked
      obtain ⟨existing, hfound, rfl⟩ := decide_update hdecision
      exact asks_renew (fun device hdevice => looked rfl existing (mem_resources_of_find? hfound)
        device (Resource.mem_devices_of_renewal? device hdevice)) modified ..
    | get kind name =>
      rw [hintent] at hdecision looked
      obtain ⟨existing, hfound, rfl⟩ := decide_get hdecision
      exact asks_probe (looked rfl existing (mem_resources_of_find? hfound)) ..
    | delete kind deletion =>
      have hdelete := hdecision
      rw [hintent] at hdelete
      obtain ⟨existing, hfound, rfl⟩ | ⟨-, rfl⟩ := decide_delete hdelete
      · exact asks_conclude (torn kind deletion existing hintent hfound hdecision)
      · exact asks_conclude (by simp)
    | list kind listing =>
      rw [hintent] at hdecision
      obtain ⟨answer, page, tokens, rfl, -⟩ := decide_list hdecision
      exact asks_conclude (by simp)

theorem takesDown_of_exchange {exchange : Exchange Call Call.Reply}
    (h : exchange ∈ gateway.exchanges backends draw request state)
    (hdown : exchange.question.takesDown) :
    ∃ kind deletion resource, gateway.intent draw request = .delete kind deletion ∧
      gateway.find? kind deletion.name = some resource ∧
      gateway.decide draw (gateway.intent draw request) =
        .ok (.perform (resource.teardown gateway.settings) .deleted
          (gateway.drop kind deletion.name)) := by
  -- otherwise no call takes anything down
  by_contra hnone
  have hkept := question_of_mem_exchanges (fun call => call.takesDown = false)
    (fun new calls _ hcalls call hcall => Call.not_takesDown_of_setsUp
      (Resource.setsUp_of_realization hcalls call hcall))
    (fun kind deletion resource hdelete hfound hdecision =>
      absurd ⟨kind, deletion, resource, hdelete, hfound, hdecision⟩ hnone)
    (fun _ _ _ _ _ => rfl) (fun _ => rfl) h
  exact nomatch hkept.symm.trans hdown

end Gateway

/-! ## Order of calls -/

/-- Calls about links, and then, for VRFs, one to the routing daemon. -/
def LinksThenRouting (kind : Kind) (calls : List Call) : Prop :=
  ∃ links routing, calls = links ++ routing ∧ (∀ call ∈ links, call.device?.isSome) ∧
    (∀ call ∈ routing, call.device? = none) ∧ routing.length = if kind = .vrf then 1 else 0

namespace Resource

variable {gateway : Gateway} {new : Resource} {calls : List Call}

theorem linksThenRouting_realization (h : gateway.realization new = .ok calls) :
    LinksThenRouting new.kind calls := by
  cases new with
  | vrf v =>
    obtain rfl := Except.ok.inj h
    refine ⟨v.linkCalls gateway.settings, [.applyVrf (v.routing gateway.settings)], rfl, ?_,
      by simp [Call.device?], rfl⟩
    unfold Vrf.linkCalls
    cases v.spec.loopback <;> cases v.spec.vni <;> simp [Call.device?]
  | bridge b =>
    obtain rfl := Gateway.calls_of_realization_bridge h
    refine ⟨_, [], (List.append_nil _).symm, ?_, by simp, rfl⟩
    unfold LogicalBridge.realization
    cases b.spec.vni <;> simp [Call.device?]
  | port p =>
    obtain ⟨vlans, -, rfl⟩ := Gateway.calls_of_realization_port h
    refine ⟨_, [], (List.append_nil _).symm, ?_, by simp, rfl⟩
    simp [BridgePort.realization, Call.device?]

theorem linksThenRouting_teardown (resource : Resource) (settings : Settings) :
    LinksThenRouting resource.kind (resource.teardown settings) := by
  cases resource with
  | vrf v =>
    cases hvni : v.spec.vni with
    | none =>
      exact ⟨[.linkDel v.device], [.removeVrf (v.routing settings)],
        by simp [teardown, Vrf.teardown, hvni], by simp [Call.device?], by simp [Call.device?], rfl⟩
    | some vni =>
      exact ⟨[.linkDel vni.vxlanName, .linkDel vni.bridgeName, .linkDel v.device],
        [.removeVrf (v.routing settings)], by simp [teardown, Vrf.teardown, hvni],
        by simp [Call.device?], by simp [Call.device?], rfl⟩
  | bridge b =>
    refine ⟨_, [], (List.append_nil _).symm, ?_, by simp, rfl⟩
    simp only [teardown, LogicalBridge.teardown]
    cases b.spec.vni <;> simp [Call.device?]
  | port p =>
    refine ⟨_, [], (List.append_nil _).symm, ?_, by simp, rfl⟩
    simp [teardown, BridgePort.teardown, Call.device?]

end Resource

/-! ## Reachable gateways -/

namespace Gateway

variable {σ : Type} {settings : Settings} {gateway after : Gateway} {draw : Draw}
  {request : Request} {resource new : Resource} {deletion : DeleteRequest} {calls : List Call}

theorem Change.find?_cases (h : gateway.Change draw request after) (kind : Kind) (name : String) :
    after.find? kind name = gateway.find? kind name ∨
      (∃ new, gateway.intent draw request = .create (.ok ()) new ∧ new.kind = kind ∧
        new.name = name ∧ gateway.find? kind name = none ∧ after.find? kind name = some new) ∨
      ∃ deletion, gateway.intent draw request = .delete kind deletion ∧ deletion.name = name ∧
        after.find? kind name = none := by
  cases h with
  | keep => exact .inl rfl
  | issue tokens => exact .inl rfl
  | @add new calls create fresh realizable =>
    rw [find?_put]
    split_ifs with hsame
    · obtain ⟨rfl, rfl⟩ := hsame
      exact .inr (.inl ⟨new, create, rfl, rfl, fresh, rfl⟩)
    · exact .inl rfl
  | @remove removed deletion delete named stored =>
    rw [find?_drop]
    split_ifs with hsame
    · obtain ⟨rfl, rfl⟩ := hsame
      exact .inr (.inr ⟨deletion, delete, named, rfl⟩)
    · exact .inl rfl

theorem find?_create_iff (backends : Backends σ) (state : σ) (link : LiveLink)
    (hcreate : gateway.intent draw request = .create (.ok ()) new)
    (hfresh : gateway.find? new.kind new.name = none)
    (hcalls : gateway.realization new = .ok calls) :
    (gateway.step (backends.mended link) draw request state).calls = calls ∧
      ((gateway.step backends draw request state).gateway.find? new.kind new.name = some new ↔
        (gateway.step backends draw request state).calls = calls ∧
          ∀ exchange ∈ gateway.exchanges backends draw request state, exchange.succeeded) := by
  have hdecision : gateway.decide draw (gateway.intent draw request) =
      .ok (.perform calls new.answer (gateway.put new)) := by
    rw [hcreate, decide_create_fresh hfresh, hcalls]
    rfl
  obtain ⟨hmended, hcourse⟩ := step_perform backends state link hdecision
  refine ⟨hmended, ?_⟩
  rcases hcourse with ⟨hafter, hmade, hall⟩ | ⟨hsame, hfailed⟩
  · rw [hafter, find?_put, if_pos ⟨rfl, rfl⟩]
    exact ⟨fun _ => ⟨hmade, hall⟩, fun _ => rfl⟩
  · rw [hsame, hfresh]
    exact ⟨nofun, fun hdone => absurd hdone.2 hfailed⟩

/-- A request to delete a stored resource removes it exactly when all calls succeeded. -/
theorem find?_delete_iff (sound : gateway.Sound) (backends : Backends σ) (state : σ)
    (link : LiveLink) (hmem : resource ∈ gateway.resources)
    (hdelete : gateway.intent draw request = .delete resource.kind deletion)
    (hname : deletion.name = resource.name) :
    (gateway.step (backends.mended link) draw request state).calls =
        resource.teardown gateway.settings ∧
      ((gateway.step backends draw request state).gateway.find? resource.kind resource.name =
          none ↔
        (gateway.step backends draw request state).calls = resource.teardown gateway.settings ∧
          ∀ exchange ∈ gateway.exchanges backends draw request state, exchange.succeeded) := by
  have hdecision : gateway.decide draw (gateway.intent draw request) =
      .ok (.perform (resource.teardown gateway.settings) .deleted
        (gateway.drop resource.kind resource.name)) := by
    rw [hdelete]
    exact sound.decide_delete hmem hname
  obtain ⟨hmended, hcourse⟩ := step_perform backends state link hdecision
  refine ⟨hmended, ?_⟩
  rcases hcourse with ⟨hafter, hmade, hall⟩ | ⟨hsame, hfailed⟩
  · rw [hafter, find?_drop, if_pos ⟨rfl, rfl⟩]
    exact ⟨fun _ => ⟨hmade, hall⟩, fun _ => rfl⟩
  · rw [hsame, mem_resources_iff.mp hmem]
    exact ⟨nofun, fun hdone => absurd hdone.2 hfailed⟩

/-- **Requests write last.** An error leaves the gateway as it was, stores, tokens and all. If any
call failed it is the last one and its error is the answer; otherwise an error came before all
calls. The calls are the first of those that would be made if nothing failed. A request to create
under an unused name, unless refused, adds its entry if and only if all of these calls succeeded,
and so does a request to delete remove the entry that it names. Other entries never change. -/
theorem Reachable.commit_discipline (h : Reachable settings gateway) (backends : Backends σ)
    (draw : Draw) (request : Request) (state : σ) (link : LiveLink) :
    let served := gateway.step backends draw request state
    let exchanges := gateway.exchanges backends draw request state
    let mended := gateway.step (backends.mended link) draw request state
    (∀ error, served.answer = .error error → served.gateway = gateway ∧
      ((∀ exchange ∈ exchanges, exchange.succeeded) → served.calls = [])) ∧
    (∀ before call error rest, exchanges = before ++ ⟨call, .error error⟩ :: rest →
      rest = [] ∧ served.answer = .error error) ∧
    (exchanges.map Exchange.question = served.calls ∧ served.calls <+: mended.calls ∧
      ∀ exchange ∈ gateway.exchanges (backends.mended link) draw request state,
        exchange.succeeded) ∧
    (∀ new, gateway.intent draw request = .create (.ok ()) new →
      gateway.find? new.kind new.name = none →
      (∀ error, gateway.realization new = .error error →
        served.answer = .error error ∧ mended.calls = []) ∧
      ∀ calls, gateway.realization new = .ok calls →
        LinksThenRouting new.kind calls ∧ mended.calls = calls ∧
        (served.gateway.find? new.kind new.name = some new ↔
          served.calls = calls ∧ ∀ exchange ∈ exchanges, exchange.succeeded)) ∧
    (∀ deletion, ∀ resource ∈ gateway.resources,
      gateway.intent draw request = .delete resource.kind deletion →
      deletion.name = resource.name →
      LinksThenRouting resource.kind (resource.teardown gateway.settings) ∧
      mended.calls = resource.teardown gateway.settings ∧
      (served.gateway.find? resource.kind resource.name = none ↔
        served.calls = resource.teardown gateway.settings ∧
          ∀ exchange ∈ exchanges, exchange.succeeded)) ∧
    ∀ kind name, served.gateway.find? kind name = gateway.find? kind name ∨
      (∃ new, gateway.intent draw request = .create (.ok ()) new ∧ new.kind = kind ∧
        new.name = name ∧ gateway.find? kind name = none ∧
        served.gateway.find? kind name = some new) ∨
      ∃ deletion, gateway.intent draw request = .delete kind deletion ∧ deletion.name = name ∧
        served.gateway.find? kind name = none := by
  have hquestions := questions_exchanges backends gateway draw request state
  refine ⟨fun error herror => ⟨gateway_of_error herror, fun hall => ?_⟩,
    fun before call error rest hfailed => last_of_failed hfailed,
    ⟨hquestions, calls_prefix_mended backends gateway draw request state link,
      succeeded_of_mended _ backends link state⟩,
    fun new hcreate hfresh => ⟨fun error hrefused => ?_, fun calls hcalls => ?_⟩,
    fun deletion resource hmem hdelete hname => ?_,
    (step_change h.sound backends draw request state).find?_cases⟩
  · rw [← hquestions, silent_of_error herror hall]
    rfl
  · have hdecision : gateway.decide draw (gateway.intent draw request) = .error error := by
      rw [hcreate, decide_create_fresh hfresh, hrefused]
      rfl
    rw [step_refused backends state hdecision, step_refused _ state hdecision]
    exact ⟨rfl, rfl⟩
  · exact ⟨Resource.linksThenRouting_realization hcalls,
      find?_create_iff backends state link hcreate hfresh hcalls⟩
  · exact ⟨resource.linksThenRouting_teardown gateway.settings,
      find?_delete_iff h.sound backends state link hmem hdelete hname⟩

/-- A VRF whose routing cannot be configured. -/
theorem Reachable.commit_discipline_blue :
    let draw : Draw := ⟨⟨0, 0⟩, .zero, ⟨0, 0⟩⟩
    let down : Simulation := { routingDown := true }
    let create : Request := .createVrf "blue" {}
    let served := ({} : Gateway).step Simulation.backends draw create down
    Reachable {} {} ∧ served.answer = .error (.routing "apply vrf" "vtysh connection refused") ∧
      served.gateway = {} := by
  intro draw down create served
  have hanswer : served.answer = .error (.routing "apply vrf" "vtysh connection refused") := by
    decide +kernel
  have reachable : Reachable {} {} := .fresh
  exact ⟨reachable, hanswer, ((reachable.commit_discipline Simulation.backends draw create down
    { name := "blue" }).1 _ hanswer).1⟩

end Gateway

end EvpnGateway
