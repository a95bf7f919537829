import EvpnGateway.Proofs.Commit
import EvpnGateway.Proofs.Frozen
import EvpnGateway.Proofs.Links
import EvpnGateway.Proofs.Segments
import Mathlib.Data.Finset.Basic
/-!
# VLANs of the tenant bridge

The tenant bridge carries the VLAN of every stored bridge, whatever fails: only a request that
deletes a bridge takes a VLAN away, it does so with its last call, and no other bridge has the VLAN.

* `bridgeVlans`: the VLANs that successful calls make a bridge carry; `Exchange.Adds`,
  `Exchange.Removes`: calls that count;
* `mem_bridgeVlans_append`, `mem_bridgeVlans_of_adds`: VLANs that stay, and VLANs that come;
* **`deleted_of_removes`**: a VLAN is removed at the end of a successful deletion;
* `History`: gateways with all exchanges since their start; **`History.vlans_kept`**.
-/

namespace EvpnGateway

/-! ## VLANs of a bridge -/

/-- The VLANs of a bridge after an exchange. Calls count that succeeded and are about the bridge
itself and not about one of its ports. -/
def Exchange.vlansAfter (device : String) (vlans : Finset VlanId)
    (exchange : Exchange Call Call.Reply) : Finset VlanId :=
  if exchange.succeeded then
    match exchange.question with
    | .vlanAdd target vlan _ true => if target = device then insert vlan vlans else vlans
    | .vlanDel target vlan true => if target = device then vlans.erase vlan else vlans
    | _ => vlans
  else vlans

/-- The VLANs of a bridge after some exchanges; it begins with none. -/
def bridgeVlans (device : String) (exchanges : List (Exchange Call Call.Reply)) : Finset VlanId :=
  exchanges.foldl (Exchange.vlansAfter device) ∅

namespace Exchange

variable {device : String} {vlan : VlanId} {vlans : Finset VlanId}
  {exchange : Exchange Call Call.Reply}

/-- A bridge was made to carry a VLAN. -/
def Adds (device : String) (vlan : VlanId) (exchange : Exchange Call Call.Reply) : Prop :=
  exchange.succeeded ∧ ∃ tagging, exchange.question = .vlanAdd device vlan tagging true

/-- A VLAN was taken from a bridge. -/
def Removes (device : String) (vlan : VlanId) (exchange : Exchange Call Call.Reply) : Prop :=
  exchange.succeeded ∧ exchange.question = .vlanDel device vlan true

theorem mem_vlansAfter_of_mem (h : vlan ∈ vlans) (kept : ¬ exchange.Removes device vlan) :
    vlan ∈ exchange.vlansAfter device vlans := by
  unfold vlansAfter
  split_ifs with hdone
  · split
    · split_ifs
      · exact Finset.mem_insert_of_mem h
      · exact h
    · next target other hquestion =>
      split_ifs with htarget
      · refine Finset.mem_erase.mpr ⟨fun hsame => kept ⟨hdone, ?_⟩, h⟩
        rw [hquestion, htarget, hsame]
      · exact h
    · exact h
  · exact h

theorem mem_vlansAfter_of_adds (h : exchange.Adds device vlan) :
    vlan ∈ exchange.vlansAfter device vlans := by
  obtain ⟨hdone, tagging, hquestion⟩ := h
  simp [vlansAfter, hdone, hquestion]

end Exchange

section Vlans

variable {device : String} {vlan : VlanId} {past exchanges : List (Exchange Call Call.Reply)}

theorem mem_foldl_vlansAfter {vlans : Finset VlanId} (h : vlan ∈ vlans)
    (kept : ∀ exchange ∈ exchanges, ¬ exchange.Removes device vlan) :
    vlan ∈ exchanges.foldl (Exchange.vlansAfter device) vlans := by
  induction exchanges generalizing vlans with
  | nil => exact h
  | cons exchange rest ih =>
    exact ih (exchange.mem_vlansAfter_of_mem h (kept exchange List.mem_cons_self))
      fun other hmem => kept other (List.mem_cons_of_mem _ hmem)

theorem mem_bridgeVlans_append (h : vlan ∈ bridgeVlans device past)
    (kept : ∀ exchange ∈ exchanges, ¬ exchange.Removes device vlan) :
    vlan ∈ bridgeVlans device (past ++ exchanges) := by
  unfold bridgeVlans
  rw [List.foldl_append]
  exact mem_foldl_vlansAfter h kept

theorem mem_bridgeVlans_of_adds (added : ∃ exchange ∈ exchanges, exchange.Adds device vlan)
    (kept : ∀ exchange ∈ exchanges, ¬ exchange.Removes device vlan) :
    vlan ∈ bridgeVlans device (past ++ exchanges) := by
  obtain ⟨exchange, hmem, hadds⟩ := added
  obtain ⟨before, after, rfl⟩ := List.append_of_mem hmem
  unfold bridgeVlans
  rw [List.foldl_append, List.foldl_append, List.foldl_cons]
  exact mem_foldl_vlansAfter (Exchange.mem_vlansAfter_of_adds hadds) fun other hother =>
    kept other (List.mem_append_right before (List.mem_cons_of_mem exchange hother))

end Vlans

/-! ## Requests and VLANs -/

theorem LogicalBridge.teardown_eq_append (bridge : LogicalBridge) (settings : Settings) :
    ∃ fabric, bridge.teardown settings =
        fabric ++ [.vlanDel settings.tenantBridge bridge.spec.vlan true] ∧
      ∀ device vlan onBridge, .vlanDel device vlan onBridge ∉ fabric := by
  refine ⟨_, rfl, ?_⟩
  cases bridge.spec.vni <;> simp

theorem Resource.eq_bridge_of_vlanDel_mem {resource : Resource} {settings : Settings}
    {device : String} {vlan : VlanId} {onBridge : Bool}
    (h : .vlanDel device vlan onBridge ∈ resource.teardown settings) :
    ∃ bridge, resource = .bridge bridge ∧ bridge.spec.vlan = vlan := by
  cases resource with
  | vrf v =>
    simp only [teardown, Vrf.teardown] at h
    cases hvni : v.spec.vni <;> simp [hvni] at h
  | bridge b =>
    obtain ⟨fabric, hteardown, hfabric⟩ := b.teardown_eq_append settings
    rw [teardown, hteardown, List.mem_append, List.mem_singleton] at h
    rcases h with hmem | hlast
    · exact absurd hmem (hfabric _ _ _)
    · exact ⟨b, rfl, (Call.vlanDel.inj hlast).2.1.symm⟩
  | port p => simp [teardown, BridgePort.teardown] at h

namespace Gateway

variable {σ : Type} {settings : Settings} {gateway : Gateway} {draw : Draw} {request : Request}
  {undertaking : Undertaking} {deletion : DeleteRequest} {kind : Kind} {backends : Backends σ}
  {state : σ} {vlan : VlanId} {past : List (Exchange Call Call.Reply)}

/-- **A VLAN is removed at the end of a successful deletion** of a bridge that has it. -/
theorem deleted_of_removes {exchange : Exchange Call Call.Reply} {device : String}
    (h : exchange ∈ gateway.exchanges backends draw request state)
    (hremoves : exchange.Removes device vlan) :
    ∃ deletion bridge, gateway.intent draw request = .delete .bridge deletion ∧
      deletion.name = bridge.name ∧ .bridge bridge ∈ gateway.resources ∧ bridge.spec.vlan = vlan ∧
      (gateway.step backends draw request state).answer = .ok .deleted := by
  obtain ⟨hdone, hquestion⟩ := hremoves
  obtain ⟨kind, deletion, resource, hdelete, hfound, hdecision⟩ :=
    takesDown_of_exchange h (by rw [hquestion]; rfl)
  obtain ⟨rfl, hname⟩ := kind_name_of_find? hfound
  have hcalls : (gateway.step backends draw request state).calls <+:
      resource.teardown gateway.settings := by
    rw [step_undertaken backends state hdecision]
    exact asked_conclude_prefix ..
  have hasked : exchange.question ∈ (gateway.step backends draw request state).calls := by
    rw [← questions_exchanges]
    exact List.mem_map_of_mem h
  obtain ⟨bridge, rfl, hvlan⟩ :=
    Resource.eq_bridge_of_vlanDel_mem (hquestion ▸ hcalls.subset hasked)
  refine ⟨deletion, bridge, hdelete, hname.symm, mem_resources_of_find? hfound, hvlan, ?_⟩
  cases step_course backends gateway draw request state with
  | refused error decision answer same silent =>
    exact absurd (decision.symm.trans hdecision) (by simp)
  | done undertaking decision answer after passed =>
    obtain rfl := Except.ok.inj (decision.symm.trans hdecision)
    exact answer
  | failed undertaking before call error decision answer same last passed =>
    -- the failing call comes after the removal, but there is no call after it
    have hbefore : exchange ∈ before := by
      rw [last] at h
      rcases List.mem_append.mp h with hmem | hmem
      · exact hmem
      · rw [List.mem_singleton.mp hmem] at hdone
        exact absurd hdone (by simp [Exchange.succeeded, Except.isOk, Except.toBool])
    obtain ⟨fabric, hteardown, hfabric⟩ := bridge.teardown_eq_append gateway.settings
    rw [← questions_exchanges, last, List.map_append, Resource.teardown, hteardown] at hcalls
    have hprefix : before.map Exchange.question <+: fabric := by
      rcases List.prefix_concat_iff.mp hcalls with hall | hsome
      · rw [(List.append_inj' hall rfl).1]
      · exact (List.prefix_append ..).trans hsome
    have hmem := hprefix.subset (List.mem_map_of_mem hbefore)
    rw [hquestion] at hmem
    exact absurd hmem (hfabric _ _ _)

theorem not_removes_of_mem (segmented : gateway.Segmented) {bridge : LogicalBridge}
    (hmem : .bridge bridge ∈ gateway.resources)
    (kept : ∀ deletion, gateway.intent draw request = .delete .bridge deletion →
      deletion.name = bridge.name →
      (gateway.step backends draw request state).answer ≠ .ok .deleted) (device : String) :
    ∀ exchange ∈ gateway.exchanges backends draw request state,
      ¬ exchange.Removes device bridge.spec.vlan := by
  intro exchange hexchange hremoves
  obtain ⟨deletion, other, hdelete, hname, hother, hvlan, hanswer⟩ :=
    deleted_of_removes hexchange hremoves
  by_cases hsame : other.name = bridge.name
  · exact kept deletion hdelete (hname.trans hsame) hanswer
  · refine segmented other bridge hother hmem hsame ?_
    exact LogicalBridgeSpec.overlaps_iff.mpr (.inl hvlan)

/-- A new bridge is stored after the tenant bridge was made to carry its VLAN. -/
theorem adds_of_created {bridge : LogicalBridge}
    (hcreate : gateway.intent draw request = .create (.ok ()) (.bridge bridge))
    (hfresh : gateway.find? .bridge bridge.name = none)
    (hnew : (gateway.step backends draw request state).gateway.find? .bridge bridge.name =
      some (.bridge bridge)) :
    ∃ exchange ∈ gateway.exchanges backends draw request state,
      exchange.Adds gateway.settings.tenantBridge bridge.spec.vlan := by
  cases hcalls : gateway.realization (.bridge bridge) with
  | error error =>
    have hdecision : gateway.decide draw (gateway.intent draw request) = .error error := by
      rw [hcreate, decide_create_fresh hfresh, hcalls]
      rfl
    rw [step_refused backends state hdecision, hfresh] at hnew
    exact nomatch hnew
  | ok calls =>
    obtain ⟨hmade, hall⟩ :=
      (find?_create_iff backends state { name := "" } hcreate hfresh hcalls).2.mp hnew
    have hmem : .vlanAdd gateway.settings.tenantBridge bridge.spec.vlan .tagged true ∈ calls := by
      rw [calls_of_realization_bridge hcalls]
      exact List.mem_cons_self
    rw [← hmade, ← questions_exchanges] at hmem
    obtain ⟨exchange, hexchange, hquestion⟩ := List.mem_map.mp hmem
    exact ⟨exchange, hexchange, hall exchange hexchange, .tagged, hquestion⟩

/-! ## Histories -/

/-- A gateway and all exchanges with the backends since its start, whatever they answered. -/
inductive History (settings : Settings) : Gateway → List (Exchange Call Call.Reply) → Prop where
  | start : History settings { settings } []
  | serve {σ : Type} {gateway : Gateway} {past : List (Exchange Call Call.Reply)}
      (history : History settings gateway past) (backends : Backends σ) (draw : Draw)
      (request : Request) (state : σ) :
      History settings (gateway.step backends draw request state).gateway
        (past ++ gateway.exchanges backends draw request state)

namespace History

theorem reachable (h : History settings gateway past) : Reachable settings gateway := by
  induction h with
  | start => exact .fresh
  | serve history backends draw request state ih => exact .step ih backends draw request state

/-- **The tenant bridge carries the VLANs of all stored bridges.** -/
theorem mem_bridgeVlans (h : History settings gateway past) :
    ∀ bridge, .bridge bridge ∈ gateway.resources →
      bridge.spec.vlan ∈ bridgeVlans settings.tenantBridge past := by
  induction h with
  | start => exact fun bridge hmem => absurd hmem List.not_mem_nil
  | @serve σ gateway past history backends draw request state ih =>
    intro bridge hmem
    have hstored := mem_resources_iff.mp hmem
    rcases (step_change history.reachable.sound backends draw request state).find?_cases .bridge
        bridge.name with hsame | ⟨new, hcreate, -, -, hfresh, hnew⟩ | ⟨-, -, -, hgone⟩
    · -- the bridge was there before, and was not deleted
      have hbefore := mem_resources_of_find? (hsame.symm.trans hstored)
      refine mem_bridgeVlans_append (ih bridge hbefore)
        (not_removes_of_mem history.reachable.segmented hbefore ?_ _)
      intro deletion hdelete hname hanswer
      have hgone := find?_of_deleted hdelete hanswer
      rw [hname] at hgone
      exact nomatch hgone.symm.trans hstored
    · obtain rfl := Option.some.inj (hnew.symm.trans hstored)
      refine mem_bridgeVlans_of_adds ?_ fun exchange hexchange hremoves => ?_
      · rw [← history.reachable.settings_eq]
        exact adds_of_created hcreate hfresh hstored
      · obtain ⟨deletion, other, hdelete, -⟩ := deleted_of_removes hexchange hremoves
        exact nomatch hcreate.symm.trans hdelete
    · exact nomatch hgone.symm.trans hstored

/-- **No stored bridge loses its VLAN.** After any history the tenant bridge carries the VLAN of
every stored bridge. The next request, unless it deletes the bridge and succeeds, leaves the bridge
stored and its VLAN where it is, after each of the calls that are made. -/
theorem vlans_kept (h : History settings gateway past) :
    (∀ bridge ∈ gateway.bridges.toList,
      bridge.spec.vlan ∈ bridgeVlans settings.tenantBridge past) ∧
    ∀ {σ : Type} (backends : Backends σ) (draw : Draw) (request : Request) (state : σ),
      let served := gateway.step backends draw request state
      ∀ bridge ∈ gateway.bridges.toList,
        (∀ deletion, gateway.intent draw request = .delete .bridge deletion →
          deletion.name = bridge.name → served.answer ≠ .ok .deleted) →
        bridge ∈ served.gateway.bridges.toList ∧
        ∀ made, made <+: gateway.exchanges backends draw request state →
          bridge.spec.vlan ∈ bridgeVlans settings.tenantBridge (past ++ made) := by
  refine ⟨fun bridge hmem => h.mem_bridgeVlans bridge (mem_bridges_iff.mp hmem),
    fun backends draw request state bridge hmem hkept => ?_⟩
  rw [mem_bridges_iff] at hmem
  refine ⟨?_, fun made hmade => mem_bridgeVlans_append (h.mem_bridgeVlans bridge hmem)
    fun exchange hexchange => not_removes_of_mem h.reachable.segmented hmem hkept _ exchange
      (hmade.subset hexchange)⟩
  rw [mem_bridges_iff]
  rcases step_keeps h.reachable.sound hmem backends draw request state with
    hstays | ⟨deletion, hdelete, hname, hanswer⟩
  · exact hstays
  · exact absurd hanswer (hkept deletion hdelete hname)

/-- A bridge whose VXLAN device cannot be created leaves its VLAN behind; another bridge is then
created with that VLAN and keeps it. -/
theorem vlans_kept_blue :
    let draw : Draw := ⟨⟨0, 0⟩, .zero, ⟨0, 0⟩⟩
    let vlan : VlanId := ⟨10, by decide, by decide⟩
    let failing : Simulation := { faults := [{ call := "link_add" }] }
    let red1 : Request := .createBridge "red1" { spec := { vni := some ⟨7, by decide⟩, vlan } }
    let blue : Request := .createBridge "blue" { spec := { vlan } }
    let first := ({} : Gateway).exchanges Simulation.backends draw red1 failing
    let served := ({} : Gateway).step Simulation.backends draw red1 failing
    let second := served.gateway.exchanges Simulation.backends draw blue served.backends
    let after := (served.gateway.step Simulation.backends draw blue served.backends).gateway
    History {} after ([] ++ first ++ second) ∧ after.bridges.toList.map (·.spec.vlan) = [vlan] ∧
      ∀ bridge ∈ after.bridges.toList,
        bridge.spec.vlan ∈ bridgeVlans defaultTenantBridge ([] ++ first ++ second) := by
  intro draw vlan failing red1 blue first served second after
  have history : History {} after ([] ++ first ++ second) :=
    .serve (.serve .start Simulation.backends draw red1 failing) Simulation.backends draw blue
      served.backends
  exact ⟨history, by decide +kernel, history.vlans_kept.1⟩

end History

end Gateway

end EvpnGateway
