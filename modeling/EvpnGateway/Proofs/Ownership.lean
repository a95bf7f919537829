import EvpnGateway.Gateway.TenantBridge
import EvpnGateway.Proofs.Links
import EvpnGateway.Proofs.Reachable
/-!
# Devices and their owners

Over a kernel in which nothing is made to fail, every device belongs to one stored resource at most
and is live as long as its owner is stored. Nothing checks that: a new link just needs a new name.

* `added_of_realization`, `removed_of_teardown`: the devices of a resource are those that its calls
  create and delete; `run_teardown`: a resource is taken down;
* `Owned`: devices of stored resources are distinct and live; **`Owned.step`**: requests keep that;
* `Network`: gateways over such kernels, in any order of steps; **`Network.devices_owned`**.
-/

namespace EvpnGateway

open Interaction (done ask)

/-! ## Devices in calls -/

theorem Call.not_removes_of_setsUp {call : Call} (h : call.setsUp) : call.removed? = none := by
  cases call <;> first | rfl | exact absurd h Bool.false_ne_true

namespace Resource

variable {gateway : Gateway} {resource new : Resource} {calls : List Call}

theorem added_of_realization (h : gateway.realization new = .ok calls) :
    calls.filterMap Call.added? = new.devices := by
  cases new with
  | vrf v =>
    obtain rfl := Except.ok.inj h
    unfold Vrf.realization Vrf.linkCalls
    cases hloopback : v.spec.loopback <;> cases hvni : v.spec.vni <;>
      simp [devices, hvni, List.filterMap_cons, Call.added?]
  | bridge b =>
    obtain rfl := Gateway.calls_of_realization_bridge h
    unfold LogicalBridge.realization
    cases hvni : b.spec.vni <;> simp [devices, hvni, List.filterMap_cons, Call.added?]
  | port p =>
    obtain ⟨vlans, -, rfl⟩ := Gateway.calls_of_realization_port h
    have hvlans : (vlans.map fun vlan =>
        Call.vlanAdd p.device vlan p.tagging false).filterMap Call.added? = [] := by
      simp [List.filterMap_eq_nil_iff, Call.added?]
    simp only [BridgePort.realization, List.filterMap_cons, hvlans]
    rfl

theorem removed_of_teardown (resource : Resource) (settings : Settings) :
    (resource.teardown settings).filterMap Call.removed? = resource.devices.reverse := by
  cases resource with
  | vrf v =>
    simp only [teardown, Vrf.teardown, devices]
    cases v.spec.vni <;> simp [Call.removed?]
  | bridge b =>
    simp only [teardown, LogicalBridge.teardown, devices]
    cases b.spec.vni <;> simp [Call.removed?]
  | port p => simp [teardown, BridgePort.teardown, devices, Call.removed?]

/-- Where nothing fails a resource with distinct and live devices can be taken down, and its devices
are all that vanishes. -/
theorem run_teardown {simulation : Simulation} (hreliable : simulation.Reliable)
    (hnodup : resource.devices.Nodup) (hlive : ∀ device ∈ resource.devices, simulation.Live device)
    (answer : Answer) (after : Gateway) :
    ((conclude gateway answer after (resource.teardown gateway.settings)).run
        Simulation.backends simulation).result = (.ok answer, after) ∧
      ∀ name, ((conclude gateway answer after (resource.teardown gateway.settings)).run
          Simulation.backends simulation).state.link? name =
        if name ∈ resource.devices then none else simulation.link? name := by
  have hremoved := resource.removed_of_teardown gateway.settings
  have hdown := resource.takesDown_of_teardown gateway.settings
  obtain ⟨hresult, hlinks⟩ := Simulation.run_takeDown hdown hreliable
    (by rw [hremoved]; exact List.nodup_reverse.mpr hnodup)
    (fun device hdevice => hlive device (by simpa [hremoved] using hdevice))
  refine ⟨hresult, fun name => ?_⟩
  rw [hlinks, hremoved]
  simp only [List.mem_reverse]

end Resource

/-! ## Owned devices -/

/-- A sound gateway over a reliable kernel in which the devices of all stored resources are distinct
and live. -/
structure Owned (gateway : Gateway) (simulation : Simulation) : Prop where
  sound : gateway.Sound
  reliable : simulation.Reliable
  distinct : (gateway.resources.flatMap Resource.devices).Nodup
  live : ∀ resource ∈ gateway.resources, ∀ device ∈ resource.devices, simulation.Live device

namespace Owned

variable {gateway after : Gateway} {simulation next : Simulation} {draw : Draw} {request : Request}
  {resource new : Resource} {undertaking : Undertaking} {calls : List Call} {kind : Kind}
  {name : String}

theorem mono (h : Owned gateway simulation) (hnext : next.Reliable)
    (hlive : ∀ name, simulation.Live name → next.Live name) : Owned gateway next :=
  ⟨h.sound, hnext, h.distinct, fun resource hmem device hdevice =>
    hlive device (h.live resource hmem device hdevice)⟩

theorem run (h : Owned gateway simulation) {α : Type} {plan : Plan α}
    (hasks : plan.Asks fun call => call.removed? = none) :
    Owned gateway (plan.run Simulation.backends simulation).state :=
  h.mono (Simulation.reliable_of_asks hasks h.reliable) fun _ hlive =>
    Simulation.live_of_asks hasks hlive

theorem eq_of_mem_devices (h : Owned gateway simulation) {one other : Resource} {device : String}
    (hone : one ∈ gateway.resources) (hother : other ∈ gateway.resources)
    (hdevice : device ∈ one.devices) (hdevice' : device ∈ other.devices) : one = other := by
  by_contra hne
  have hsymm : Std.Symm (Function.onFun List.Disjoint Resource.devices) :=
    ⟨fun _ _ hdisjoint => hdisjoint.symm⟩
  exact (List.nodup_flatMap.mp h.distinct).2.forall hone hother hne hdevice hdevice'

theorem undertake (h : Owned gateway simulation)
    (hasks : (undertaking.plan gateway).Asks fun call => call.removed? = none)
    (hafter : Owned undertaking.after simulation) :
    Owned ((undertaking.plan gateway).run Simulation.backends simulation).result.2
      ((undertaking.plan gateway).run Simulation.backends simulation).state := by
  rcases (undertaking.commits gateway).run_cases Simulation.backends simulation with
    ⟨hresult, -⟩ | ⟨_, _, _, hresult, -, -⟩
  · rw [hresult]
    exact hafter.run hasks
  · rw [hresult]
    exact h.run hasks

theorem establish (h : Owned gateway simulation)
    (hfresh : gateway.find? new.kind new.name = none) (hsound : (gateway.put new).Sound)
    (hcalls : gateway.realization new = .ok calls) :
    Owned ((conclude gateway new.answer (gateway.put new) calls).run
        Simulation.backends simulation).result.2
      ((conclude gateway new.answer (gateway.put new) calls).run
        Simulation.backends simulation).state := by
  have hadded := Resource.added_of_realization hcalls
  have hkeep : ∀ call ∈ calls, call.removed? = none := fun call hcall =>
    Call.not_removes_of_setsUp (Resource.setsUp_of_realization hcalls call hcall)
  have hasks : (conclude gateway new.answer (gateway.put new) calls).Asks
      fun call => call.removed? = none := asks_conclude hkeep
  have hrun := h.run hasks
  rcases (commits_conclude ..).run_cases Simulation.backends simulation with
    ⟨hresult, -⟩ | ⟨_, _, _, hresult, -, -⟩
  · obtain ⟨hnodup, hnew⟩ := Simulation.run_setUp hkeep hresult
    rw [hadded] at hnodup hnew
    rw [hresult]
    have hperm := (Gateway.resources_put hfresh).flatMap_right Resource.devices
    refine ⟨hsound, hrun.reliable, ?_, fun resource hmem device hdevice => ?_⟩
    · rw [hperm.nodup_iff, List.flatMap_cons, List.nodup_append]
      refine ⟨hnodup, h.distinct, fun device hdevice other hother hsame => ?_⟩
      -- the devices of the others were live before, the new ones were not
      obtain ⟨owner, howner, hown⟩ := List.mem_flatMap.mp hother
      exact (hnew device hdevice).1 (hsame ▸ h.live owner howner other hown)
    · rcases Gateway.mem_resources_put.mp hmem with rfl | ⟨hold, -⟩
      · exact (hnew device hdevice).2
      · exact hrun.live resource hold device hdevice
  · rw [hresult]
    exact hrun

/-- A stored resource can be taken down, and its devices are all that vanishes. -/
theorem takeDown (h : Owned gateway simulation) (hmem : resource ∈ gateway.resources)
    (answer : Answer) (after : Gateway) :
    ((conclude gateway answer after (resource.teardown gateway.settings)).run
        Simulation.backends simulation).result = (.ok answer, after) ∧
      ∀ name, ((conclude gateway answer after (resource.teardown gateway.settings)).run
          Simulation.backends simulation).state.link? name =
        if name ∈ resource.devices then none else simulation.link? name :=
  Resource.run_teardown h.reliable ((List.nodup_flatMap.mp h.distinct).1 resource hmem)
    (h.live resource hmem) answer after

theorem dismiss (h : Owned gateway simulation) (hmem : resource ∈ gateway.resources)
    (hsound : (gateway.drop resource.kind resource.name).Sound) (hnext : next.Reliable)
    (hlinks : ∀ name, next.link? name =
      if name ∈ resource.devices then none else simulation.link? name) :
    Owned (gateway.drop resource.kind resource.name) next := by
  have hperm := (Gateway.resources_drop (Gateway.mem_resources_iff.mp hmem)).flatMap_right
    Resource.devices
  have hdistinct := h.distinct
  rw [hperm.nodup_iff, List.flatMap_cons, List.nodup_append] at hdistinct
  refine ⟨hsound, hnext, hdistinct.2.1, fun other hother device hdevice => ?_⟩
  unfold Simulation.Live
  rw [hlinks, if_neg fun hgone =>
    hdistinct.2.2 device hgone device (List.mem_flatMap.mpr ⟨other, hother, hdevice⟩) rfl]
  exact h.live other (Gateway.mem_resources_drop.mp hother).1 device hdevice

/-- **Requests leave every device with its owner.** -/
theorem step (h : Owned gateway simulation) (draw : Draw) (request : Request) :
    Owned (gateway.step Simulation.backends draw request simulation).gateway
      (gateway.step Simulation.backends draw request simulation).backends := by
  cases hdecision : gateway.decide draw (gateway.intent draw request) with
  | error error =>
    rw [Gateway.step_refused _ _ hdecision]
    exact h
  | ok undertaking =>
    have hchange := Gateway.decide_change h.sound hdecision
    rw [Gateway.step_undertaken _ _ hdecision]
    cases hintent : gateway.intent draw request with
    | create check new =>
      rw [hintent] at hdecision
      obtain ⟨rfl, ⟨existing, -, rfl⟩ | ⟨hfresh, calls, hcalls, rfl⟩⟩ :=
        Gateway.decide_create hdecision
      · exact h
      · exact h.establish hfresh (hchange.sound h.sound) hcalls
    | update requested =>
      rw [hintent] at hdecision
      obtain ⟨existing, hfound, rfl⟩ := Gateway.decide_update hdecision
      refine h.undertake (asks_renew (fun _ _ => rfl) (fun _ => rfl) ..) ?_
      rw [Gateway.after_renew, h.sound.put_reported hfound]
      exact h
    | get kind name =>
      rw [hintent] at hdecision
      obtain ⟨existing, -, rfl⟩ := Gateway.decide_get hdecision
      exact h.undertake (asks_probe (fun _ _ => rfl) ..) h
    | delete kind deletion =>
      rw [hintent] at hdecision
      obtain ⟨existing, hfound, rfl⟩ | ⟨-, rfl⟩ := Gateway.decide_delete hdecision
      · have hmem := Gateway.mem_resources_of_find? hfound
        obtain ⟨rfl, hname⟩ := Gateway.kind_name_of_find? hfound
        rw [← hname] at hchange ⊢
        obtain ⟨hresult, hlinks⟩ := h.takeDown hmem .deleted
          (gateway.drop existing.kind existing.name)
        have hasks : (conclude gateway Answer.deleted (gateway.drop existing.kind existing.name)
            (existing.teardown gateway.settings)).Asks fun _ => True :=
          asks_conclude fun _ _ => trivial
        simp only [Undertaking.plan, hresult]
        exact h.dismiss hmem (hchange.sound h.sound)
          (Simulation.reliable_of_asks hasks h.reliable) hlinks
      · exact h
    | list kind listing =>
      rw [hintent] at hdecision
      obtain ⟨answer, page, tokens, rfl, -⟩ := Gateway.decide_list hdecision
      exact ⟨hchange.sound h.sound, h.reliable, h.distinct, h.live⟩

theorem get (h : Owned gateway simulation) (draw : Draw) (hmem : resource ∈ gateway.resources) :
    (gateway.step Simulation.backends draw (Http.getRequest resource.kind resource.name)
      simulation).answer = .ok resource.answer := by
  have hdecision : gateway.decide draw (gateway.intent draw
      (Http.getRequest resource.kind resource.name)) =
      .ok (.perform resource.probe resource.answer gateway) := by
    rw [Gateway.intent_getRequest]
    exact h.sound.decide_get hmem
  rw [Gateway.step_undertaken _ _ hdecision]
  refine congrArg Prod.fst (Simulation.run_probe (fun call hcall => ?_) h.reliable).1
  obtain ⟨device, hdevice, rfl⟩ := resource.looked_of_probe call hcall
  exact ⟨device, rfl, h.live resource hmem device hdevice⟩

theorem delete (h : Owned gateway simulation) (draw : Draw) (allowMissing : Bool)
    (hmem : resource ∈ gateway.resources) :
    let served := gateway.step Simulation.backends draw
      (Http.deleteRequest resource.kind { name := resource.name, allowMissing }) simulation
    served.answer = .ok .deleted ∧
      served.gateway = gateway.drop resource.kind resource.name ∧
      ∀ name, served.backends.link? name =
        if name ∈ resource.devices then none else simulation.link? name := by
  have hdecision : gateway.decide draw (gateway.intent draw
      (Http.deleteRequest resource.kind { name := resource.name, allowMissing })) =
      .ok (.perform (resource.teardown gateway.settings) .deleted
        (gateway.drop resource.kind resource.name)) := by
    rw [Gateway.intent_deleteRequest]
    exact h.sound.decide_delete hmem rfl
  obtain ⟨hresult, hlinks⟩ := h.takeDown hmem .deleted (gateway.drop resource.kind resource.name)
  rw [Gateway.step_undertaken _ _ hdecision]
  exact ⟨congrArg Prod.fst hresult, congrArg Prod.snd hresult, hlinks⟩

end Owned

/-! ## Networks -/

/-- A gateway over a kernel in which nothing is made to fail, after any steps in any order: requests
are served, the tenant bridge is seen to, and links are put there by others. -/
inductive Network (settings : Settings) : Gateway → Simulation → Prop where
  | start {simulation : Simulation} (reliable : simulation.Reliable) :
      Network settings { settings } simulation
  | serve {gateway : Gateway} {simulation : Simulation}
      (network : Network settings gateway simulation) (draw : Draw) (request : Request) :
      Network settings (gateway.step Simulation.backends draw request simulation).gateway
        (gateway.step Simulation.backends draw request simulation).backends
  | tenantBridge {gateway : Gateway} {simulation : Simulation}
      (network : Network settings gateway simulation) (name : String) :
      Network settings gateway ((ensureTenantBridge name).plan.run Simulation.backends
        simulation).state
  | addLink {gateway : Gateway} {simulation : Simulation}
      (network : Network settings gateway simulation) (link : LiveLink) :
      Network settings gateway (simulation.put link)

theorem asks_ensureTenantBridge (name : String) :
    (ensureTenantBridge name).plan.Asks fun call => call.removed? = none := by
  refine .ask rfl fun reply => ?_
  cases reply with
  | ok link => exact .done _
  | error error =>
    change (ExceptT.bindCont _ (if error.code = .notFound then Except.ok false
      else Except.error error) : Plan (Except GatewayError Unit)).Asks _
    split_ifs
    · refine .ask rfl fun reply => ?_
      cases reply <;> exact .done _
    · exact .done _

namespace Network

variable {settings : Settings} {gateway : Gateway} {simulation : Simulation}

/-- **In every network the devices of stored resources are distinct and live.** -/
theorem owned (h : Network settings gateway simulation) : Owned gateway simulation := by
  induction h with
  | start reliable =>
    exact ⟨Gateway.sound_fresh settings, reliable, List.nodup_nil,
      fun _ hmem => absurd hmem List.not_mem_nil⟩
  | serve network draw request ih => exact ih.step draw request
  | tenantBridge network name ih => exact ih.run (asks_ensureTenantBridge name)
  | addLink network link ih => exact ih.mono (ih.reliable.put link) fun _ hlive => hlive.put link

/-- **Devices belong to one resource each.** The devices of a stored resource are distinct, no other
has one of them, and they are live. So every stored resource can be shown and deleted, and when one
is deleted its devices vanish, no other links do, and all others can still be shown. -/
theorem devices_owned (h : Network settings gateway simulation) :
    (∀ resource ∈ gateway.resources,
      resource.devices.Nodup ∧ ∀ device ∈ resource.devices, simulation.Live device) ∧
    (∀ one ∈ gateway.resources, ∀ other ∈ gateway.resources, one ≠ other →
      one.devices.Disjoint other.devices) ∧
    (∀ resource ∈ gateway.resources, ∀ draw,
      (gateway.step Simulation.backends draw (Http.getRequest resource.kind resource.name)
        simulation).answer = .ok resource.answer) ∧
    ∀ resource ∈ gateway.resources, ∀ draw allowMissing,
      let served := gateway.step Simulation.backends draw
        (Http.deleteRequest resource.kind { name := resource.name, allowMissing }) simulation
      served.answer = .ok .deleted ∧
      (∀ name, served.backends.link? name =
        if name ∈ resource.devices then none else simulation.link? name) ∧
      (∀ other, other ∈ served.gateway.resources ↔ other ∈ gateway.resources ∧ other ≠ resource) ∧
      ∀ other ∈ gateway.resources, other ≠ resource → ∀ draw,
        (served.gateway.step Simulation.backends draw (Http.getRequest other.kind other.name)
          served.backends).answer = .ok other.answer := by
  have howned := h.owned
  refine ⟨fun resource hmem => ⟨(List.nodup_flatMap.mp howned.distinct).1 resource hmem,
    howned.live resource hmem⟩, fun one hone other hother hne device hdevice hdevice' =>
    hne (howned.eq_of_mem_devices hone hother hdevice hdevice'), fun resource hmem draw =>
    howned.get draw hmem, fun resource hmem draw allowMissing => ?_⟩
  obtain ⟨hanswer, hgateway, hlinks⟩ := howned.delete draw allowMissing hmem
  have hafter := howned.step draw
    (Http.deleteRequest resource.kind { name := resource.name, allowMissing })
  have hothers : ∀ other, other ∈ (gateway.drop resource.kind resource.name).resources ↔
      other ∈ gateway.resources ∧ other ≠ resource :=
    fun other => Gateway.mem_resources_drop_iff_ne hmem
  rw [← hgateway] at hothers
  exact ⟨hanswer, hlinks, hothers, fun other hother hne draw' =>
    hafter.get draw' ((hothers other).mpr ⟨hother, hne⟩)⟩

/-- A network with a tenant bridge, a VRF that has three devices and a bridge that has one. The VRF
is deleted, and the bridge can still be shown. -/
theorem devices_owned_blue :
    let draw : Draw := ⟨⟨0, 0⟩, .zero, ⟨0, 0⟩⟩
    let vrf : VrfSpec := { vni := some ⟨100, by decide⟩ }
    let bridge : LogicalBridgeSpec :=
      { vni := some ⟨7, by decide⟩, vlan := ⟨10, by decide, by decide⟩ }
    let blue : Resource := .vrf (({} : Gateway).newVrf draw "blue" vrf)
    let red1 : Resource := .bridge (Gateway.newBridge draw "red1" bridge)
    let ensured := ((ensureTenantBridge "br-tenant").plan.run Simulation.backends {}).state
    let first := ({} : Gateway).step Simulation.backends draw (.createVrf "blue" { spec := vrf })
      ensured
    let second := first.gateway.step Simulation.backends draw
      (.createBridge "red1" { spec := bridge }) first.backends
    let deleted := second.gateway.step Simulation.backends draw (.deleteVrf { name := "vrfs/blue" })
      second.backends
    Network {} second.gateway second.backends ∧ second.gateway.resources = [blue, red1] ∧
      blue.devices = ["blue", "br100", "vni100"] ∧ red1.devices = ["vni7"] ∧
      blue.devices.Nodup ∧ (∀ device ∈ blue.devices, second.backends.Live device) ∧
      blue.devices.Disjoint red1.devices ∧
      (second.gateway.step Simulation.backends draw (.getVrf "vrfs/blue") second.backends).answer =
        .ok blue.answer ∧
      deleted.answer = .ok .deleted ∧
      (∀ name, deleted.backends.link? name =
        if name ∈ ["blue", "br100", "vni100"] then none else second.backends.link? name) ∧
      (deleted.gateway.step Simulation.backends draw (.getBridge "bridges/red1")
        deleted.backends).answer = .ok red1.answer := by
  intro draw vrf bridge blue red1 ensured first second deleted
  have network : Network {} second.gateway second.backends :=
    .serve (.serve (.tenantBridge (.start ⟨rfl, rfl⟩) _) ..) ..
  have hresources : second.gateway.resources = [blue, red1] := by decide +kernel
  have hblue : blue ∈ second.gateway.resources := by
    rw [hresources]
    exact List.mem_cons_self
  have hred1 : red1 ∈ second.gateway.resources := by
    rw [hresources]
    exact List.mem_cons_of_mem _ List.mem_cons_self
  have hname : blue.name = "vrfs/blue" := by decide +kernel
  have hname' : red1.name = "bridges/red1" := by decide +kernel
  have hdevices : blue.devices = ["blue", "br100", "vni100"] := by decide +kernel
  obtain ⟨hown, hdisjoint, hget, hdelete⟩ := network.devices_owned
  have hshown := hget blue hblue draw
  obtain ⟨hanswer, hlinks, -, hothers⟩ := hdelete blue hblue draw false
  have hleft := hothers red1 hred1 nofun draw
  rw [hname] at hshown hanswer hlinks hleft
  rw [hname'] at hleft
  rw [hdevices] at hlinks
  exact ⟨network, hresources, hdevices, by decide +kernel, (hown blue hblue).1,
    (hown blue hblue).2, hdisjoint blue hblue red1 hred1 nofun, hshown, hanswer, hlinks, hleft⟩

end Network

end EvpnGateway
