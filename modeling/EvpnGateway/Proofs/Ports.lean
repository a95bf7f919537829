import EvpnGateway.Proofs.References
/-!
# VLANs of new ports

A request for a port goes through the bridges that it refers to twice. First all of them are looked
up, and then the port joins their VLANs one by one, so a bridge that is missing is noticed before
the first call.

* `Gateway.lacks`: no stored bridge has a name; `vlansOf_of_lacks`, `exists_vlansOf`: the first name
  of that kind ends the look-up;
* `decide_createPort`: the decision about a request for a port is the outcome of the look-up;
* `joins_of_vlansOf`: one call to join a VLAN for each name, in order;
* **`Reachable.joins_referenced_vlans`**.
-/

namespace EvpnGateway.Gateway

variable {settings : Settings} {gateway : Gateway} {draw : Draw} {names : List String}
  {name id : String} {vlans : List VlanId} {requested : BridgePort}

/-! ## The look-up of bridges -/

/-- No stored bridge has the name. -/
def lacks (gateway : Gateway) (name : String) : Bool := (gateway.bridges.get? name).isNone

theorem vlansOf_of_lacks (h : names.find? gateway.lacks = some name) :
    gateway.vlansOf names = .error (.notFound name) := by
  induction names with
  | nil => cases h
  | cons first names ih =>
    rw [List.find?_cons, lacks] at h
    unfold vlansOf
    cases hfirst : gateway.bridges.get? first with
    | none =>
      rw [hfirst] at h
      obtain rfl := Option.some.inj h
      rfl
    | some bridge =>
      rw [hfirst] at h
      dsimp only
      rw [ih h]
      rfl

theorem exists_vlansOf (h : names.find? gateway.lacks = none) :
    ∃ vlans, gateway.vlansOf names = .ok vlans := by
  induction names with
  | nil => exact ⟨[], rfl⟩
  | cons first names ih =>
    rw [List.find?_cons, lacks] at h
    unfold vlansOf
    cases hfirst : gateway.bridges.get? first with
    | none =>
      rw [hfirst] at h
      cases h
    | some bridge =>
      rw [hfirst] at h
      obtain ⟨vlans, hvlans⟩ := ih h
      dsimp only
      rw [hvlans]
      exact ⟨bridge.spec.vlan :: vlans, rfl⟩

theorem joins_of_vlansOf (h : gateway.vlansOf names = .ok vlans) (device : String)
    (tagging : Tagging) :
    List.Forall₂ (fun name call => ∃ bridge, gateway.bridges.get? name = some bridge ∧
      call = Call.vlanAdd device bridge.spec.vlan tagging false) names
      (vlans.map fun vlan => .vlanAdd device vlan tagging false) := by
  refine List.forall₂_map_right_iff.mpr ((forall₂_of_vlansOf h).imp ?_)
  rintro name vlan ⟨bridge, hbridge, rfl⟩
  exact ⟨bridge, hbridge, rfl⟩

/-! ## New ports -/

theorem decide_createPort (hcheck : checkPort id requested.spec = .ok ())
    (hfresh : gateway.ports.get? (assignName Kind.port.collection id draw.id) = none) :
    gateway.decide draw (gateway.intent draw (.createPort id requested)) =
      (gateway.vlansOf requested.spec.bridges).map fun vlans =>
        let port := newPort draw id requested.spec
        .perform (port.realization gateway.settings vlans) (.port port)
          (gateway.put (.port port)) := by
  have hfind : gateway.find? .port (newPort draw id requested.spec).name = none := by
    simp only [find?, newPort, hfresh, Option.map_none]
  have hrealization : gateway.realization (.port (newPort draw id requested.spec)) =
      (gateway.vlansOf requested.spec.bridges).map
        ((newPort draw id requested.spec).realization gateway.settings) := by
    simp only [realization, BridgePort.lifecycle, newPort]
    cases gateway.vlansOf requested.spec.bridges <;> rfl
  rw [intent, hcheck, decide_create_fresh hfind, hrealization]
  cases gateway.vlansOf requested.spec.bridges <;> rfl

/-- A port has a type once its request passed, and one VLAN at most if it is an access port. -/
theorem tagging_cases (hcheck : checkPort id requested.spec = .ok ()) :
    let tagging := (newPort draw id requested.spec).tagging
    requested.spec.type = .access ∧ tagging = .untagged ∧ requested.spec.bridges.length ≤ 1 ∨
      requested.spec.type = .trunk ∧ tagging = .tagged := by
  obtain ⟨htype, -, hlength, -⟩ := checkPort_eq_ok hcheck
  simp only [BridgePort.tagging, newPort]
  cases hkind : requested.spec.type with
  | unspecified => exact absurd hkind htype
  | access => exact .inl ⟨rfl, rfl, hlength hkind⟩
  | trunk => exact .inr ⟨rfl, rfl⟩

/-- **A new port joins the VLANs of the bridges that it refers to.** Take a request for a port under
an unused name that passes its check. If some of its references name no stored bridge, the first of
these is not found: no call is made, and nothing changes. Otherwise the calls are to add a dummy
link with the id of the port for a name, the address that is asked for and the tenant bridge for a
master, and then, for each reference in order, to join the VLAN that the bridge of that name has
now: untagged for an access port, which has one reference at most, and tagged for a trunk. All of
these calls are made unless one fails, and then the port is stored; in any case no others are. -/
theorem Reachable.joins_referenced_vlans (h : Reachable settings gateway) {σ : Type}
    (backends : Backends σ) (draw : Draw) (id : String) (requested : BridgePort) (state : σ)
    (hcheck : checkPort id requested.spec = .ok ())
    (hfresh : gateway.ports.get? (assignName Kind.port.collection id draw.id) = none) :
    let served := gateway.step backends draw (.createPort id requested) state
    let exchanges := gateway.exchanges backends draw (.createPort id requested) state
    let device := shortId (assignName Kind.port.collection id draw.id)
    (∀ name, requested.spec.bridges.find? gateway.lacks = some name →
      served.answer = .error (.notFound name) ∧ served.calls = [] ∧
        served.gateway = gateway ∧ served.backends = state) ∧
    (requested.spec.bridges.find? gateway.lacks = none → ∃ tagging joins,
      (requested.spec.type = .access ∧ tagging = .untagged ∧ joins.length ≤ 1 ∨
        requested.spec.type = .trunk ∧ tagging = .tagged) ∧
      List.Forall₂ (fun name call => ∃ bridge, gateway.bridges.get? name = some bridge ∧
        call = .vlanAdd device bridge.spec.vlan tagging false) requested.spec.bridges joins ∧
      let calls := .linkAdd { name := device, kind := .dummy, address := some requested.spec.mac
                              master := some settings.tenantBridge } :: joins
      served.calls <+: calls ∧
      ((∀ exchange ∈ exchanges, exchange.succeeded) → served.calls = calls ∧
        served.answer = .ok (.port (newPort draw id requested.spec)) ∧
        served.gateway = gateway.put (.port (newPort draw id requested.spec)))) := by
  intro served exchanges device
  have hdecide := decide_createPort hcheck hfresh
  refine ⟨fun name hmissing => ?_, fun hnone => ?_⟩
  · rw [vlansOf_of_lacks hmissing] at hdecide
    simp only [served, step_refused backends state hdecide, and_self]
  · obtain ⟨vlans, hvlans⟩ := exists_vlansOf hnone
    rw [hvlans, h.settings_eq] at hdecide
    have hjoins := joins_of_vlansOf hvlans device (newPort draw id requested.spec).tagging
    obtain ⟨hmended, hcourse⟩ := step_perform backends state { name := "" } hdecide
    refine ⟨_, _, ?_, hjoins, ?_, fun hall => ⟨?_, step_passed hdecide hall⟩⟩
    · rw [← hjoins.length_eq]
      exact tagging_cases hcheck
    · have hprefix := calls_prefix_mended backends gateway draw (.createPort id requested) state
        { name := "" }
      rwa [hmended] at hprefix
    · rcases hcourse with ⟨-, hmade, -⟩ | ⟨-, hfailed⟩
      · exact hmade
      · exact absurd hall hfailed

/-- A trunk that refers to one bridge twice, and one that also refers to a bridge that is not
there. -/
theorem Reachable.joins_referenced_vlans_blue :
    let draw : Draw := ⟨⟨0, 0⟩, .zero, ⟨0, 0⟩⟩
    let blue : Request := .createBridge "blue" { spec := { vlan := ⟨10, by decide, by decide⟩ } }
    let trunk := fun bridges : List String =>
      ({ spec := { mac := ⟨2, 0, 0, 0, 0, 1⟩, type := .trunk, bridges } } : BridgePort)
    let one := ({} : Gateway).step Simulation.backends draw blue {}
    let joined := one.gateway.step Simulation.backends draw
      (.createPort "port1" (trunk ["bridges/blue", "bridges/blue"])) one.backends
    let refused := one.gateway.step Simulation.backends draw
      (.createPort "port1" (trunk ["bridges/blue", "bridges/red1", "bridges/green"])) one.backends
    Reachable {} one.gateway ∧ joined.calls.length = 3 ∧
      refused.answer = .error (.notFound "bridges/red1") ∧ refused.calls = [] := by
  intro draw blue trunk one joined refused
  have reachable : Reachable {} one.gateway := .step .fresh ..
  obtain ⟨tagging, joins, -, hjoins, -, hcalls⟩ := (reachable.joins_referenced_vlans
    Simulation.backends draw "port1" (trunk ["bridges/blue", "bridges/blue"]) one.backends
    (by decide +kernel) (by decide +kernel)).2 (by decide +kernel)
  have hrefused := (reachable.joins_referenced_vlans Simulation.backends draw "port1"
    (trunk ["bridges/blue", "bridges/red1", "bridges/green"]) one.backends (by decide +kernel)
    (by decide +kernel)).1 "bridges/red1" (by decide +kernel)
  refine ⟨reachable, ?_, hrefused.1, hrefused.2.1⟩
  rw [(hcalls (by decide +kernel)).1, List.length_cons, ← hjoins.length_eq]
  rfl

end EvpnGateway.Gateway
