import EvpnGateway.Proofs.Journal
/-!
# References of ports

The bridges that a port refers to are looked up once, while the port is created. A bridge may be
deleted while ports refer to it, and another may take its name.

* `forall₂_of_vlansOf`: names that resolve to bridges, with the VLANs of these;
* **`Journal.references_resolved`**: a stored port joined the VLANs of the bridges that it referred
  to, and each of them is still there unless it was deleted since;
* `Journal.dangling_reference_blue`: a port outlives its bridge.
-/

namespace EvpnGateway

namespace Gateway

variable {gateway : Gateway} {bridge : LogicalBridge} {names : List String} {vlans : List VlanId}

theorem get?_bridges_eq_some_iff {name : String} :
    gateway.bridges.get? name = some bridge ↔
      gateway.find? .bridge name = some (.bridge bridge) := by
  simp [find?]

theorem mem_ports_iff {port : BridgePort} :
    port ∈ gateway.ports.toList ↔ .port port ∈ gateway.resources := by
  simp [resources]

theorem forall₂_of_vlansOf (h : gateway.vlansOf names = .ok vlans) :
    List.Forall₂ (fun name vlan => ∃ bridge, gateway.bridges.get? name = some bridge ∧
      bridge.spec.vlan = vlan) names vlans := by
  induction names generalizing vlans with
  | nil =>
    obtain rfl := Except.ok.inj h
    exact .nil
  | cons name names ih =>
    unfold vlansOf at h
    cases hfound : gateway.bridges.get? name with
    | none =>
      rw [hfound] at h
      exact nomatch h
    | some bridge =>
      rw [hfound] at h
      obtain ⟨rest, hrest, hvlans⟩ := ok_of_bind h
      obtain rfl := Except.ok.inj hvlans
      exact .cons ⟨bridge, hfound, rfl⟩ (ih hrest)

end Gateway

namespace Journal

variable {settings : Settings} {gateway : Gateway} {entries : List Entry}

theorem get?_bridges_of_kept (h : Journal settings gateway entries) {past later : List Entry}
    {entry : Entry} {name : String} {bridge : LogicalBridge}
    (hentries : entries = past ++ entry :: later)
    (hbridge : entry.gateway.bridges.get? name = some bridge)
    (hkept : ∀ other ∈ entry :: later, ¬ other.Deletes .bridge name) :
    gateway.bridges.get? name = some bridge := by
  obtain rfl : bridge.name = name := Store.name_of_get? hbridge
  rw [Gateway.get?_bridges_eq_some_iff] at hbridge ⊢
  have hmem := Gateway.mem_resources_of_find? hbridge
  exact Gateway.mem_resources_iff.mp (h.kept hentries hmem hkept)

/-- **References were resolved when their port was created.** The request that created a stored port
found a bridge for each name that the port refers to, and let the port join the VLANs of these
bridges, in order. A bridge that was found is still stored under its name, with the VLAN, unless a
later request deleted it. -/
theorem references_resolved (h : Journal settings gateway entries) :
    ∀ port ∈ gateway.ports.toList, ∃ past entry later vlans,
      entries = past ++ entry :: later ∧ entry.Creates (.port port) ∧
      entry.exchanges.map Exchange.question = port.realization settings vlans ∧
      (∀ exchange ∈ entry.exchanges, exchange.succeeded) ∧
      List.Forall₂ (fun name vlan => ∃ bridge, entry.gateway.bridges.get? name = some bridge ∧
        bridge.spec.vlan = vlan ∧ ((∀ other ∈ later, ¬ other.Deletes .bridge name) →
          gateway.bridges.get? name = some bridge)) port.spec.bridges vlans := by
  intro port hport
  obtain ⟨past, entry, later, hentries, hcreates, -⟩ := h.created (Gateway.mem_ports_iff.mp hport)
  have hentry : entry ∈ entries := by
    rw [hentries]
    exact List.mem_append_right past List.mem_cons_self
  obtain ⟨σ, backends, state, hreachable, hrecord⟩ := h.record_of_mem hentry
  rw [hrecord] at hcreates
  obtain ⟨calls, hcalls, hquestions, hall, -⟩ := Gateway.exchanges_of_creates hcreates
  obtain ⟨vlans, hvlans, rfl⟩ := Gateway.calls_of_realization_port hcalls
  rw [hreachable.settings_eq] at hquestions
  have hexchanges : entry.exchanges =
      entry.gateway.exchanges backends entry.draw entry.request state := by rw [hrecord]; rfl
  refine ⟨past, entry, later, vlans, hentries, hrecord ▸ hcreates, hexchanges ▸ hquestions,
    hexchanges ▸ hall, (Gateway.forall₂_of_vlansOf hvlans).imp ?_⟩
  rintro name vlan ⟨bridge, hbridge, hvlan⟩
  refine ⟨bridge, hbridge, hvlan, fun hkept => h.get?_bridges_of_kept hentries hbridge ?_⟩
  intro other hother
  rcases List.mem_cons.mp hother with rfl | hlater
  · -- a request that creates a port does not delete a bridge
    rintro ⟨⟨deletion, hdelete, -⟩, -⟩
    obtain ⟨check, hcreate⟩ := hcreates.asked
    exact nomatch hcreate.symm.trans hdelete
  · exact hkept other hlater

/-- A port that refers to a bridge, both just created. -/
theorem references_resolved_blue :
    let draw : Draw := ⟨⟨0, 0⟩, .zero, ⟨0, 0⟩⟩
    let vlan : VlanId := ⟨10, by decide, by decide⟩
    let spec : BridgePortSpec :=
      { mac := ⟨2, 0, 0, 0, 0, 1⟩, type := .trunk, bridges := ["bridges/blue"] }
    let blue : LogicalBridge := { name := "bridges/blue", spec := { vlan }, status := .up }
    let port1 : BridgePort := { name := "ports/port1", spec, status := .up }
    let createBridge : Request := .createBridge "blue" { spec := { vlan } }
    let createPort : Request := .createPort "port1" { spec }
    let one := ({} : Gateway).step Simulation.backends draw createBridge {}
    let two := one.gateway.step Simulation.backends draw createPort one.backends
    let entries := [({} : Gateway).record Simulation.backends draw createBridge {},
      one.gateway.record Simulation.backends draw createPort one.backends]
    Journal {} two.gateway entries ∧ port1 ∈ two.gateway.ports.toList ∧
      ∃ past entry later, entries = past ++ entry :: later ∧ entry.Creates (.port port1) ∧
        entry.exchanges.map Exchange.question = port1.realization {} [vlan] ∧
        (∀ exchange ∈ entry.exchanges, exchange.succeeded) ∧
        entry.gateway.bridges.get? "bridges/blue" = some blue ∧
        two.gateway.bridges.get? "bridges/blue" = some blue := by
  intro draw vlan spec blue port1 createBridge createPort one two entries
  have journal : Journal {} two.gateway entries :=
    .serve (.serve .start Simulation.backends draw createBridge {}) Simulation.backends draw
      createPort one.backends
  have hport : port1 ∈ two.gateway.ports.toList := by decide +kernel
  have hblue : two.gateway.bridges.get? "bridges/blue" = some blue := by decide +kernel
  have hstays : ∀ other ∈ entries, ¬ other.Deletes .bridge "bridges/blue" := by
    rintro other hother ⟨⟨deletion, hdelete, -⟩, -⟩
    rcases List.mem_pair.mp hother with rfl | rfl
    · exact nomatch hdelete
    · exact nomatch hdelete
  obtain ⟨past, entry, later, vlans, hentries, hcreates, hquestions, hall, hvlans⟩ :=
    journal.references_resolved port1 hport
  obtain ⟨_, _, ⟨found, hfound, rfl, hkept⟩, hnil, rfl⟩ := List.forall₂_cons_left_iff.mp hvlans
  obtain rfl := List.forall₂_nil_left_iff.mp hnil
  have hnow := hkept fun other hlater => hstays other (by
    rw [hentries]
    exact List.mem_append_right past (List.mem_cons_of_mem entry hlater))
  obtain rfl := Option.some.inj (hnow.symm.trans hblue)
  exact ⟨journal, hport, past, entry, later, hentries, hcreates, hquestions, hall, hfound, hblue⟩

/-- **A port outlives the bridge that it refers to**, although no call fails. -/
theorem dangling_reference_blue :
    let draw : Draw := ⟨⟨0, 0⟩, .zero, ⟨0, 0⟩⟩
    let vlan : VlanId := ⟨10, by decide, by decide⟩
    let blue : Request := .createBridge "blue" { spec := { vlan } }
    let port1 : Request := .createPort "port1" { spec := {
      mac := ⟨2, 0, 0, 0, 0, 1⟩, type := .trunk, bridges := ["bridges/blue"] } }
    let delete : Request := .deleteBridge { name := "bridges/blue" }
    let one := ({} : Gateway).step Simulation.backends draw blue {}
    let two := one.gateway.step Simulation.backends draw port1 one.backends
    let three := two.gateway.step Simulation.backends draw delete two.backends
    let entries := [({} : Gateway).record Simulation.backends draw blue {},
      one.gateway.record Simulation.backends draw port1 one.backends,
      two.gateway.record Simulation.backends draw delete two.backends]
    Journal {} three.gateway entries ∧
      (∀ entry ∈ entries, ∀ exchange ∈ entry.exchanges, exchange.succeeded) ∧
      ∃ port ∈ three.gateway.ports.toList, ∃ name ∈ port.spec.bridges,
        three.gateway.bridges.get? name = none := by
  intro draw vlan blue port1 delete one two three entries
  have journal : Journal {} three.gateway entries :=
    .serve (.serve (.serve .start Simulation.backends draw blue {}) Simulation.backends draw port1
      one.backends) Simulation.backends draw delete two.backends
  exact ⟨journal, by decide +kernel, by decide +kernel⟩

end Journal

end EvpnGateway
