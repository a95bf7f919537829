import EvpnGateway.Proofs.Custody
/-!
# Deletions that are repeated

A deletion that fails leaves its resource stored, so that it can be repeated. Its calls start over
from the first; a link that the failed attempt had deleted already is not there any more, and its
deletion fails for ever.

* `teardown_cases`: a resource is taken down with one call, or with a link to begin with;
* **`Testbed.delete_again`**: whether a failed deletion can be repeated;
* `Testbed.delete_stuck_blue`: a VRF that cannot be deleted any more.
-/

namespace EvpnGateway

namespace Resource

theorem teardown_cases (resource : Resource) (settings : Settings) :
    ∃ call rest, resource.teardown settings = call :: rest ∧
      (rest = [] ∨ ∃ device, call = .linkDel device) := by
  cases resource with
  | vrf v =>
    simp only [teardown, Vrf.teardown]
    cases v.spec.vni with
    | none => exact ⟨_, _, rfl, .inr ⟨_, rfl⟩⟩
    | some vni => exact ⟨_, _, rfl, .inr ⟨_, rfl⟩⟩
  | bridge b =>
    simp only [teardown, LogicalBridge.teardown]
    cases b.spec.vni with
    | none => exact ⟨_, _, rfl, .inl rfl⟩
    | some vni => exact ⟨_, _, rfl, .inr ⟨_, rfl⟩⟩
  | port p => exact ⟨_, _, rfl, .inl rfl⟩

end Resource

namespace Simulation

variable {α : Type} {simulation : Simulation} {call : Call} {calls : List Call}
  {error : GatewayError} {device : String}

/-- When the first call fails it is the only one, and apart from its faults the kernel is as it
was. -/
theorem run_first_failed (gateway after : Gateway) (value : α) (calls : List Call)
    (h : (backends call simulation).1 = .error error) :
    let plan := conclude gateway value after (call :: calls)
    plan.dialogue backends simulation = [⟨call, .error error⟩] ∧
      (plan.run backends simulation).state.cleared = simulation.cleared := by
  obtain ⟨faults, hstate⟩ := backends_error h
  rcases hreply : backends call simulation with ⟨reply, next⟩
  rw [hreply] at h hstate
  obtain rfl : reply = .error error := h
  obtain rfl : next = { simulation with faults } := hstate
  constructor
  · simp only [conclude, Interaction.dialogue, hreply]
  · simp only [conclude, Interaction.run, hreply]
    rfl

/-- When the first call succeeds, its exchange is the first, and the rest follows. -/
theorem run_first_passed (gateway after : Gateway) (value : α) (calls : List Call)
    {reply : call.Value} (h : (backends call simulation).1 = .ok reply) :
    let plan := conclude gateway value after (call :: calls)
    let rest := conclude gateway value after calls
    (∃ exchange ∈ plan.dialogue backends simulation, exchange.succeeded) ∧
      (plan.run backends simulation).result =
        (rest.run backends (backends call simulation).2).result ∧
      (plan.run backends simulation).state =
        (rest.run backends (backends call simulation).2).state := by
  rcases hreply : backends call simulation with ⟨reply', next⟩
  rw [hreply] at h
  obtain rfl : reply' = .ok reply := h
  refine ⟨⟨⟨call, .ok reply⟩, ?_, rfl⟩, ?_, ?_⟩
  · simp only [conclude, Interaction.dialogue, hreply]
    exact List.mem_cons_self
  · simp only [conclude, Interaction.run, hreply]
  · simp only [conclude, Interaction.run, hreply]

theorem not_live_of_first_passed (gateway after : Gateway) (value : α)
    (hdown : ∀ call ∈ calls, call.added? = none) {reply : (Call.linkDel device).Value}
    (h : (backends (.linkDel device) simulation).1 = .ok reply) :
    ¬ ((conclude gateway value after (.linkDel device :: calls)).run backends
      simulation).state.Live device := by
  have hdeletes : Exchange.Deletes device
      ⟨.linkDel device, (backends (.linkDel device) simulation).1⟩ := by
    rw [h]
    exact ⟨rfl, rfl⟩
  obtain ⟨-, -, hstate⟩ := run_first_passed gateway after value calls h
  rw [hstate]
  exact not_live_of_asks (asks_conclude hdown) (gone_of_answered hdeletes).2

theorem run_first_missing (gateway after : Gateway) (value : α) (calls : List Call)
    (hreliable : simulation.Reliable) (hgone : ¬ simulation.Live device) :
    ((conclude gateway value after (.linkDel device :: calls)).run backends simulation).result =
        (.error (.link "link_del" ("cannot find device " ++ device)), gateway) ∧
      ((conclude gateway value after (.linkDel device :: calls)).run backends simulation).state =
        simulation := by
  have hanswer : backends (.linkDel device) simulation =
      (.error (.link "link_del" ("cannot find device " ++ device)), simulation) := by
    rw [hreliable.backends_eq]
    exact if_neg hgone
  constructor
  · simp only [conclude, Interaction.run, hanswer]
  · simp only [conclude, Interaction.run, hanswer]

end Simulation

/-! ## Taking a resource down again -/

namespace Resource

variable {gateway : Gateway} {simulation : Simulation} {resource : Resource} {error : GatewayError}

/-- **A resource can be taken down again if no call had succeeded**; otherwise a device is gone, and
the first call fails for want of it. -/
theorem run_teardown_again (answer : Answer) (after : Gateway) (hnodup : resource.devices.Nodup)
    (hlive : ∀ device ∈ resource.devices, simulation.Live device)
    (hfailed : ((conclude gateway answer after (resource.teardown gateway.settings)).run
      Simulation.backends simulation).result.1 = .error error) :
    let plan := conclude gateway answer after (resource.teardown gateway.settings)
    let failed := plan.run Simulation.backends simulation
    let again := plan.run Simulation.backends failed.state.cleared
    ((∀ exchange ∈ plan.dialogue Simulation.backends simulation, exchange.succeeded = false) →
      again.result = (.ok answer, after) ∧ ∀ device ∈ resource.devices, ¬ again.state.Live device) ∧
    ((∃ exchange ∈ plan.dialogue Simulation.backends simulation, exchange.succeeded) →
      ∃ device ∈ resource.devices, ¬ failed.state.Live device ∧
        again.result = (.error (.link "link_del" ("cannot find device " ++ device)), gateway) ∧
        again.state = failed.state.cleared) := by
  intro plan failed again
  obtain ⟨call, rest, hteardown, hshape⟩ := resource.teardown_cases gateway.settings
  have hplan : plan = conclude gateway answer after (call :: rest) := by rw [← hteardown]
  cases hreply : (Simulation.backends call simulation).1 with
  | error error =>
    obtain ⟨hdialogue, hcleared⟩ :=
      Simulation.run_first_failed gateway after answer rest hreply
    rw [← hplan] at hdialogue hcleared
    refine ⟨fun _ => ?_, fun ⟨exchange, hexchange, hsucceeded⟩ => ?_⟩
    · -- the kernel is as before, without its faults
      change (plan.run Simulation.backends failed.state.cleared).result = _ ∧
        ∀ device ∈ resource.devices,
          ¬ (plan.run Simulation.backends failed.state.cleared).state.Live device
      rw [hcleared]
      obtain ⟨hresult, hlinks⟩ := run_teardown simulation.reliable_cleared hnodup hlive answer after
      refine ⟨hresult, fun device hdevice => ?_⟩
      unfold Simulation.Live
      rw [hlinks, if_pos hdevice]
      exact Bool.false_ne_true
    · rw [hdialogue, List.mem_singleton] at hexchange
      rw [hexchange] at hsucceeded
      exact nomatch hsucceeded
  | ok reply =>
    obtain ⟨hsome, hresult, -⟩ := Simulation.run_first_passed gateway after answer rest hreply
    rw [← hplan] at hsome hresult
    refine ⟨fun hnone => ?_, fun _ => ?_⟩
    · obtain ⟨exchange, hexchange, hsucceeded⟩ := hsome
      exact absurd hsucceeded (by simp [hnone exchange hexchange])
    · rcases hshape with rfl | ⟨device, rfl⟩
      · -- a single call that succeeded would have been all
        rw [hresult] at hfailed
        exact nomatch hfailed
      · have hremoved : device ∈ (resource.teardown gateway.settings).filterMap Call.removed? := by
          rw [hteardown]
          exact List.mem_cons_self
        have hdown : ∀ call ∈ rest, call.added? = none := fun call hcall =>
          Call.not_adds_of_takesDown (resource.takesDown_of_teardown gateway.settings call
            (hteardown ▸ List.mem_cons_of_mem _ hcall))
        have hgone : ¬ failed.state.Live device := by
          change ¬ (plan.run Simulation.backends simulation).state.Live device
          rw [hplan]
          exact Simulation.not_live_of_first_passed gateway after answer hdown hreply
        rw [resource.removed_of_teardown, List.mem_reverse] at hremoved
        have hmissing := Simulation.run_first_missing gateway after answer rest
          failed.state.reliable_cleared hgone
        rw [← hplan] at hmissing
        exact ⟨device, hremoved, hgone, hmissing⟩

end Resource

/-! ## Deletions -/

namespace Testbed

variable {settings : Settings} {gateway : Gateway} {simulation : Simulation} {entries : List Entry}
  {removed : List String} {resource : Resource} {deletion : DeleteRequest} {error : GatewayError}

/-- **A failed deletion can be repeated if none of its calls succeeded.** Then, when calls pass
again, it succeeds, the resource is not stored any more and none of its devices is live. If some
call did succeed, a device of the resource is gone: the deletion fails for want of it, and leaves
gateway and kernel as they are, with the resource stored, however often it is repeated. -/
theorem delete_again (h : Testbed settings gateway simulation entries removed)
    (hmem : resource ∈ gateway.resources) (hname : deletion.name = resource.name)
    (hlive : ∀ device ∈ resource.devices, simulation.Live device) (draw draw' : Draw)
    (hfailed : (gateway.step Simulation.backends draw (Http.deleteRequest resource.kind deletion)
      simulation).answer = .error error) :
    let request := Http.deleteRequest resource.kind deletion
    let exchanges := gateway.exchanges Simulation.backends draw request simulation
    let failed := gateway.step Simulation.backends draw request simulation
    let again := failed.gateway.step Simulation.backends draw' request failed.backends.cleared
    failed.gateway = gateway ∧
    ((∀ exchange ∈ exchanges, exchange.succeeded = false) →
      again.answer = .ok .deleted ∧ again.gateway = gateway.drop resource.kind resource.name ∧
      ∀ device ∈ resource.devices, ¬ again.backends.Live device) ∧
    ((∃ exchange ∈ exchanges, exchange.succeeded) →
      ∃ device ∈ resource.devices, ¬ failed.backends.Live device ∧
      again.answer = .error (.link "link_del" ("cannot find device " ++ device)) ∧
      again.gateway = gateway ∧ again.backends = failed.backends.cleared) := by
  intro request exchanges failed again
  have hdecision : ∀ draw, gateway.decide draw (gateway.intent draw request) =
      .ok (.perform (resource.teardown gateway.settings) .deleted
        (gateway.drop resource.kind resource.name)) := by
    intro draw
    rw [Gateway.intent_deleteRequest]
    exact h.reachable.sound.decide_delete hmem hname
  have hsame : failed.gateway = gateway := Gateway.gateway_of_error hfailed
  have hrun := Gateway.step_undertaken Simulation.backends simulation (hdecision draw)
  have hexchanges : exchanges = _ :=
    Gateway.exchanges_undertaken Simulation.backends simulation (hdecision draw)
  have hagain : again =
      gateway.step Simulation.backends draw' request failed.backends.cleared := by
    change failed.gateway.step Simulation.backends draw' request failed.backends.cleared = _
    rw [hsame]
  rw [Gateway.step_undertaken Simulation.backends _ (hdecision draw')] at hagain
  have hstate : failed.backends = _ := congrArg Gateway.Served.backends hrun
  have hanswer := (congrArg Gateway.Served.answer hrun).symm.trans hfailed
  obtain ⟨hnone, hsome⟩ := Resource.run_teardown_again .deleted
    (gateway.drop resource.kind resource.name) (h.nodup_devices resource hmem) hlive hanswer
  rw [hexchanges, hagain, hstate]
  refine ⟨hsame, fun hall => ?_, fun hpassed => ?_⟩
  · obtain ⟨hresult, hgone⟩ := hnone hall
    exact ⟨congrArg Prod.fst hresult, congrArg Prod.snd hresult, hgone⟩
  · obtain ⟨device, hdevice, hgone, hresult, hkernel⟩ := hsome hpassed
    exact ⟨device, hdevice, hgone, congrArg Prod.fst hresult, congrArg Prod.snd hresult, hkernel⟩

open Halfway in
/-- A VRF whose first link cannot be deleted at first. -/
theorem delete_again_blue :
    let blue : Resource := .vrf (({} : Gateway).newVrf draw "blue" { vni := some ⟨100, by decide⟩ })
    let delete : Request := Http.deleteRequest blue.kind { name := "vrfs/blue" }
    let failing : Simulation := { one.backends with faults := [{ call := "link_del" }] }
    let failed := one.gateway.step Simulation.backends draw delete failing
    failed.answer = .error (.link "link_del" "injected failure") ∧
      (failed.gateway.step Simulation.backends draw delete failed.backends.cleared).answer =
        .ok .deleted := by
  intro blue delete failing failed
  have testbed : Testbed {} one.gateway failing
      [({} : Gateway).record Simulation.backends draw createVrf {}] [] :=
    .inject (.serve (.start {}) draw createVrf) _ _
  have hfailed : failed.answer = .error (.link "link_del" "injected failure") := by decide +kernel
  have hmem : blue ∈ one.gateway.resources := by decide +kernel
  have hlive : ∀ device ∈ blue.devices, failing.Live device := by decide +kernel
  have hnone : ∀ exchange ∈ one.gateway.exchanges Simulation.backends draw delete failing,
      exchange.succeeded = false := by decide +kernel
  have hname : "vrfs/blue" = blue.name := by decide +kernel
  exact ⟨hfailed, ((testbed.delete_again hmem hname hlive draw draw hfailed).2.1 hnone).1⟩

open Halfway in
/-- **A VRF that cannot be deleted any more.** All of its devices were live, and one call of its
deletion was made to fail. The deletion is repeated with nothing made to fail: it fails, the VRF is
still stored, and two of its devices are live. -/
theorem delete_stuck_blue :
    Testbed {} one.gateway faulty [({} : Gateway).record Simulation.backends draw createVrf {}] [] ∧
    (∀ resource ∈ one.gateway.resources, ∀ device ∈ resource.devices, faulty.Live device) ∧
    two.answer = .error (.link "link_del" "injected failure") ∧
    let again := two.gateway.step Simulation.backends draw deleteVrf two.backends.cleared
    again.answer = .error (.link "link_del" "cannot find device vni100") ∧
      again.gateway.vrfs.toList.map Vrf.name = ["vrfs/blue"] ∧
      again.backends.Live "blue" ∧ again.backends.Live "br100" :=
  ⟨.inject (.serve (.start {}) draw createVrf) _ _, by decide +kernel⟩

end Testbed

end EvpnGateway
