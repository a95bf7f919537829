import EvpnGateway.Backend.Simulation
import EvpnGateway.Proofs.Reachable
/-!
# Well-formed resources

Whatever requests bring, what is stored has the form that requests can name and devices can be made
of. Checks settle it when a resource is created, and no request changes it later.

* `Vrf.WellFormed`, `LogicalBridge.WellFormed`, `BridgePort.WellFormed`: the content of a resource;
* `Resource.WellNamed`: its name, by which it can be addressed;
* `wellFormed_of_create`: a new resource is well formed;
* **`Reachable.stored_addressable`**.
-/

namespace EvpnGateway

/-! ## Forms -/

/-- The status of a VRF fits the settings and its segment. -/
structure Vrf.WellFormed (settings : Settings) (vrf : Vrf) : Prop where
  localAs : vrf.status.localAs = settings.localAs
  /-- Without a segment the routing table is the first one. -/
  plain : vrf.spec.vni = none → vrf.status.routingTable.toNat = 1000
  /-- With a segment it is one of the ten behind the first. -/
  stretched : ∀ vni, vrf.spec.vni = some vni →
    vrf.status.routingTable.toNat = 1001 + vni.number % 10
  unicast : vrf.status.routerMac.isMulticast = false
  isLocal : vrf.status.routerMac.isLocal = true

/-- A bridge is in operation. -/
structure LogicalBridge.WellFormed (bridge : LogicalBridge) : Prop where
  up : bridge.status = .up

/-- A port is in operation, and its specification is one that passes the check. -/
structure BridgePort.WellFormed (port : BridgePort) : Prop where
  up : port.status = .up
  type : port.spec.type = .access ∨ port.spec.type = .trunk
  mac : port.spec.mac.isZero = false ∧ port.spec.mac.isMulticast = false
  bridges : ∀ name ∈ port.spec.bridges, IsName Kind.bridge.collection name
  access : port.spec.type = .access → port.spec.bridges.length ≤ 1

namespace Resource

/-- The content of a resource has the form of its kind. -/
def WellFormed (settings : Settings) : Resource → Prop
  | vrf v => v.WellFormed settings
  | bridge b => b.WellFormed
  | port p => p.WellFormed

/-- The name of a resource is its collection and an id of its kind; it passes the check of names,
and the id can be read off it. -/
structure WellNamed (resource : Resource) : Prop where
  id : ∃ id, resource.name = fullName resource.kind.collection id ∧ resource.kind.AllowsId id ∧
    shortId resource.name = id
  checked : checkName resource.kind.collection resource.name = .ok ()

theorem wellNamed_of_allowsId {resource : Resource} {id : String}
    (hname : resource.name = fullName resource.kind.collection id)
    (hid : resource.kind.AllowsId id) : resource.WellNamed := by
  have hsegment : IsSegment id := isSegment_of_isIdChar hid.ne_empty hid.isIdChar
  refine ⟨⟨id, hname, hid, ?_⟩, ?_⟩
  · rw [hname, shortId_fullName hsegment.slash]
  · rw [hname]
    exact checkName_fullName_iff.mpr hsegment

end Resource

/-! ## New resources -/

namespace Gateway

variable {settings : Settings} {gateway after : Gateway} {draw : Draw} {request : Request}
  {new : Resource}

theorem wellFormed_newVrf (gateway : Gateway) (draw : Draw) (id : String) (spec : VrfSpec) :
    (gateway.newVrf draw id spec).WellFormed gateway.settings where
  localAs := rfl
  plain h := by
    change spec.vni = none at h
    change (routingTable spec.vni).toNat = 1000
    rw [h]
    rfl
  stretched vni h := by
    change spec.vni = some vni at h
    change (routingTable spec.vni).toNat = _
    rw [h, toNat_routingTable_some]
  unicast := MacAddress.isMulticast_localUnicast draw.octets
  isLocal := MacAddress.isLocal_localUnicast draw.octets

theorem wellFormed_newPort {id : String} {spec : BridgePortSpec} (h : checkPort id spec = .ok ()) :
    (newPort draw id spec).WellFormed := by
  obtain ⟨htype, hmac, haccess, hbridges, -⟩ := checkPort_eq_ok h
  refine ⟨rfl, ?_, hmac, fun name hmem => checkName_eq_ok_iff.mp (hbridges name hmem), haccess⟩
  change spec.type = .access ∨ spec.type = .trunk
  cases hkind : spec.type with
  | unspecified => exact absurd hkind htype
  | access => exact .inl rfl
  | trunk => exact .inr rfl

/-- **A new resource is well formed**, whatever was asked for and drawn. -/
theorem wellFormed_of_create (h : gateway.intent draw request = .create (.ok ()) new) :
    new.WellNamed ∧ new.WellFormed gateway.settings := by
  cases request <;> simp only [intent, Intent.create.injEq, reduceCtorEq] at h
  case createVrf id vrf =>
    obtain ⟨hcheck, rfl⟩ := h
    obtain ⟨_, hname, hid⟩ := interfaceId_assignName draw.id
      (rfl : namesInterface Kind.vrf.collection = true) hcheck
    exact ⟨Resource.wellNamed_of_allowsId hname hid, wellFormed_newVrf ..⟩
  case createBridge id bridge =>
    obtain ⟨hcheck, rfl⟩ := h
    obtain ⟨_, hname, hid⟩ := bridgeId_assignName draw.id hcheck
    exact ⟨Resource.wellNamed_of_allowsId hname hid, ⟨rfl⟩⟩
  case createPort id port =>
    obtain ⟨hcheck, rfl⟩ := h
    obtain ⟨_, hname, hid⟩ := interfaceId_assignName draw.id
      (rfl : namesInterface Kind.port.collection = true) (checkPort_eq_ok hcheck).2.2.2.2
    exact ⟨Resource.wellNamed_of_allowsId hname hid, wellFormed_newPort hcheck⟩

/-! ## Stored resources -/

/-- Everything that is stored is well formed. -/
def WellFormed (gateway : Gateway) : Prop :=
  ∀ resource ∈ gateway.resources, resource.WellNamed ∧ resource.WellFormed gateway.settings

theorem WellFormed.change (h : gateway.WellFormed) (hchange : gateway.Change draw request after) :
    after.WellFormed := by
  have hsettings := hchange.settings_eq
  unfold WellFormed
  rw [hsettings]
  cases hchange with
  | keep => exact h
  | issue tokens => exact h
  | add create fresh realizable =>
    intro resource hmem
    rcases mem_resources_put.mp hmem with rfl | ⟨hold, -⟩
    · exact wellFormed_of_create create
    · exact h resource hold
  | remove delete named stored =>
    exact fun resource hmem => h resource (mem_resources_drop.mp hmem).1

theorem Reachable.wellFormed (h : Reachable settings gateway) : gateway.WellFormed :=
  h.invariant WellFormed (fun _ hmem => absurd hmem List.not_mem_nil) WellFormed.change

/-- **Stored resources are well formed and can be addressed.** Every entry is stored under its own
name, which is its collection and an id of its kind, and its content has the form of its kind. As
long as no call fails a request to show a resource answers it, and a request to delete it removes
it. -/
theorem Reachable.stored_addressable (h : Reachable settings gateway) :
    (∀ kind name resource, gateway.find? kind name = some resource →
      resource.kind = kind ∧ resource.name = name) ∧
    ∀ resource ∈ gateway.resources,
      gateway.find? resource.kind resource.name = some resource ∧
      resource.WellNamed ∧ resource.WellFormed settings ∧
      ∀ {σ : Type} (backends : Backends σ) (link : LiveLink) (draw : Draw) (state : σ),
        (gateway.step (backends.mended link) draw
          (Http.getRequest resource.kind resource.name) state).answer = .ok resource.answer ∧
        ∀ allowMissing,
          let served := gateway.step (backends.mended link) draw
            (Http.deleteRequest resource.kind { name := resource.name, allowMissing }) state
          served.answer = .ok .deleted ∧
            served.gateway = gateway.drop resource.kind resource.name := by
  refine ⟨fun kind name resource hfound => kind_name_of_find? hfound, fun resource hmem => ?_⟩
  obtain ⟨hname, hform⟩ := h.wellFormed resource hmem
  rw [h.settings_eq] at hform
  refine ⟨mem_resources_iff.mp hmem, hname, hform, fun backends link draw state => ⟨?_, ?_⟩⟩
  · have hdecision : gateway.decide draw (gateway.intent draw
        (Http.getRequest resource.kind resource.name)) =
        .ok (.perform resource.probe resource.answer gateway) := by
      rw [intent_getRequest]
      exact h.sound.decide_get hmem
    exact (step_mended backends link state hdecision).1
  · intro allowMissing
    have hdecision : gateway.decide draw (gateway.intent draw
        (Http.deleteRequest resource.kind { name := resource.name, allowMissing })) =
        .ok (.perform (resource.teardown gateway.settings) .deleted
          (gateway.drop resource.kind resource.name)) := by
      rw [intent_deleteRequest]
      exact h.sound.decide_delete hmem rfl
    exact step_mended backends link state hdecision

/-- A bridge whose owner chose no id, a VRF with a segment, and a port that joins the bridge. -/
theorem Reachable.stored_addressable_blue :
    let draw : Draw := ⟨⟨0, 0⟩, .zero, ⟨0, 0⟩⟩
    let bridge : LogicalBridge := { spec := { vlan := ⟨10, by decide, by decide⟩ } }
    let spec : BridgePortSpec :=
      { mac := ⟨2, 0, 0, 0, 0, 1⟩, type := .access
        bridges := ["bridges/00000000-0000-0000-0000-000000000000"] }
    let port : Resource := .port { name := "ports/port1", spec, status := .up }
    let first := ({} : Gateway).step Simulation.backends draw (.createBridge "" bridge) {}
    let second := first.gateway.step Simulation.backends draw
      (.createVrf "blue" { spec := { vni := some ⟨107, by decide⟩ } }) first.backends
    let third := second.gateway.step Simulation.backends draw (.createPort "port1" { spec })
      second.backends
    let mended := Simulation.backends.mended { name := "port1", index := 1 }
    Reachable {} third.gateway ∧
      third.gateway.resources.map Resource.name =
        ["vrfs/blue", "bridges/00000000-0000-0000-0000-000000000000", "ports/port1"] ∧
      (∀ resource ∈ third.gateway.resources, resource.WellNamed ∧ resource.WellFormed {}) ∧
      third.gateway.find? .port "ports/port1" = some port ∧
      (third.gateway.step mended draw (.getPort "ports/port1") third.backends).answer =
        .ok port.answer ∧
      (third.gateway.step mended draw (.deletePort { name := "ports/port1" })
        third.backends).answer = .ok .deleted := by
  intro draw bridge spec port first second third mended
  have reachable : Reachable {} third.gateway := .step (.step (.step .fresh ..) ..) ..
  have hport : port ∈ third.gateway.resources := by decide +kernel
  obtain ⟨-, hstored⟩ := reachable.stored_addressable
  obtain ⟨hfound, -, -, hserved⟩ := hstored port hport
  obtain ⟨hshown, hdeleted⟩ :=
    hserved Simulation.backends { name := "port1", index := 1 } draw third.backends
  exact ⟨reachable, by decide +kernel, fun resource hmem =>
    ⟨(hstored resource hmem).2.1, (hstored resource hmem).2.2.1⟩, hfound, hshown,
    (hdeleted false).1⟩

end Gateway

end EvpnGateway
