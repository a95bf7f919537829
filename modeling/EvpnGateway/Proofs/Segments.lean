import EvpnGateway.Backend.Simulation
import EvpnGateway.Proofs.Reachable
/-!
# Segments of logical bridges

No two stored bridges share a VLAN or a segment, because requests that would let them are refused.

* `overlaps_iff`, `overlaps_comm`: what the search for another owner looks for;
* `bridgeRealization_taken`, `bridgeRealization_free`: a bridge is refused when the search finds
  one, and set up when it does not;
* `Segmented`, **`Segmented.change`**: the segments of stored bridges stay distinct;
* `createBridge_refused_iff`: when a request for a bridge is refused;
* **`Reachable.segments_distinct`**.
-/

namespace EvpnGateway

/-! ## The search for another owner -/

theorem LogicalBridgeSpec.overlaps_iff {one other : LogicalBridgeSpec} :
    one.overlaps other ↔
      one.vlan = other.vlan ∨ ∃ vni, one.vni = some vni ∧ other.vni = some vni := by
  simp only [overlaps, Bool.or_eq_true, Bool.and_eq_true, beq_iff_eq, Option.isSome_iff_exists]
  refine or_congr_right ⟨?_, ?_⟩
  · rintro ⟨⟨vni, hvni⟩, hsame⟩
    exact ⟨vni, hvni, hsame ▸ hvni⟩
  · rintro ⟨vni, hone, hother⟩
    exact ⟨⟨vni, hone⟩, hone.trans hother.symm⟩

theorem LogicalBridgeSpec.overlaps_comm {one other : LogicalBridgeSpec} :
    one.overlaps other ↔ other.overlaps one := by
  rw [overlaps_iff, overlaps_iff, eq_comm]
  refine or_congr_right ⟨?_, ?_⟩ <;> rintro ⟨vni, hone, hother⟩ <;> exact ⟨vni, hother, hone⟩

namespace Gateway

variable {settings : Settings} {gateway after : Gateway} {draw : Draw} {request : Request}
  {bridge : LogicalBridge} {calls : List Call}

theorem bridgeRealization_taken (bridge : LogicalBridge)
    (h : ∃ stored ∈ gateway.bridges.toList, stored.spec.overlaps bridge.spec) :
    ∃ reason, gateway.bridgeRealization bridge = .error (.invalidArgument reason) := by
  unfold bridgeRealization
  cases howner : gateway.bridges.find? fun other => other.spec.overlaps bridge.spec with
  | some owner => exact ⟨_, rfl⟩
  | none =>
    obtain ⟨stored, hstored, hoverlap⟩ := h
    exact absurd hoverlap (List.find?_eq_none.mp howner stored hstored)

theorem bridgeRealization_free (bridge : LogicalBridge)
    (h : ∀ stored ∈ gateway.bridges.toList, ¬ stored.spec.overlaps bridge.spec) :
    gateway.bridgeRealization bridge = .ok (bridge.realization gateway.settings) := by
  have hnone : (gateway.bridges.find? fun other => other.spec.overlaps bridge.spec) = none :=
    List.find?_eq_none.mpr h
  unfold bridgeRealization
  rw [hnone]

theorem free_of_bridgeRealization (h : gateway.bridgeRealization bridge = .ok calls) :
    ∀ stored ∈ gateway.bridges.toList, ¬ stored.spec.overlaps bridge.spec := by
  intro stored hstored hoverlap
  obtain ⟨reason, hrefused⟩ := bridgeRealization_taken bridge ⟨stored, hstored, hoverlap⟩
  exact nomatch hrefused.symm.trans h

theorem mem_bridges_iff : bridge ∈ gateway.bridges.toList ↔ .bridge bridge ∈ gateway.resources := by
  simp [resources]

/-! ## Distinct segments -/

/-- Bridges with different names have different VLANs and different segments. -/
def Segmented (gateway : Gateway) : Prop :=
  ∀ one other : LogicalBridge, .bridge one ∈ gateway.resources →
    .bridge other ∈ gateway.resources → one.name ≠ other.name → ¬ one.spec.overlaps other.spec

/-- **Changes keep segments distinct.** A new bridge passed the search, and no other bridge
changes. -/
theorem Segmented.change (h : gateway.Segmented) (hchange : gateway.Change draw request after) :
    after.Segmented := by
  cases hchange with
  | keep => exact h
  | issue tokens => exact h
  | @add new calls create fresh realizable =>
    intro one other hone hother hne
    have hnew : ∀ stored added : LogicalBridge, .bridge stored ∈ gateway.resources →
        .bridge added = new → ¬ stored.spec.overlaps added.spec := by
      rintro stored added hstored rfl
      exact free_of_bridgeRealization realizable stored (mem_bridges_iff.mpr hstored)
    rcases mem_resources_put.mp hone with hone | ⟨hone, -⟩ <;>
      rcases mem_resources_put.mp hother with hother | ⟨hother, -⟩
    · cases hone.trans hother.symm
      exact absurd rfl hne
    · exact fun hoverlap => hnew other one hother hone (LogicalBridgeSpec.overlaps_comm.mp hoverlap)
    · exact hnew one other hone hother
    · exact h one other hone hother hne
  | remove delete named stored =>
    exact fun one other hone hother =>
      h one other (mem_resources_drop.mp hone).1 (mem_resources_drop.mp hother).1

theorem Reachable.segmented (h : Reachable settings gateway) : gateway.Segmented :=
  h.invariant Segmented (fun _ _ hone => absurd hone List.not_mem_nil) Segmented.change

/-- A well-formed request for a bridge under an unused name is refused without a call exactly when
the search finds an owner. -/
theorem createBridge_refused_iff {σ : Type} (backends : Backends σ) (draw : Draw) (id : String)
    (requested : LogicalBridge) (state : σ) (hid : checkOptionalId id = .ok ())
    (hfresh : gateway.bridges.get? (assignName Kind.bridge.collection id draw.id) = none) :
    let served := gateway.step backends draw (.createBridge id requested) state
    ((∃ reason, served.answer = .error (.invalidArgument reason)) ∧ served.calls = [] ∧
      served.gateway = gateway ∧ served.backends = state) ↔
    ∃ stored ∈ gateway.bridges.toList, stored.spec.overlaps requested.spec := by
  -- the decision is the outcome of the search
  have hdecide : gateway.decide draw (gateway.intent draw (.createBridge id requested)) =
      (gateway.bridgeRealization (newBridge draw id requested.spec)).map
        (.perform · (.bridge (newBridge draw id requested.spec))
          (gateway.put (.bridge (newBridge draw id requested.spec)))) := by
    have hfind : gateway.find? .bridge (newBridge draw id requested.spec).name = none := by
      simp only [find?, newBridge, hfresh, Option.map_none]
    rw [intent, hid]
    exact decide_create_fresh hfind
  constructor
  · rintro ⟨-, hsilent, -, -⟩
    by_contra hfree
    push Not at hfree
    rw [bridgeRealization_free (newBridge draw id requested.spec) hfree] at hdecide
    -- the first call is the VLAN of the tenant bridge
    rw [step_undertaken backends state hdecide] at hsilent
    exact List.cons_ne_nil _ _ hsilent
  · intro htaken
    obtain ⟨reason, hrefused⟩ :=
      bridgeRealization_taken (newBridge draw id requested.spec) htaken
    rw [hrefused] at hdecide
    rw [step_refused backends state hdecide]
    exact ⟨⟨reason, rfl⟩, rfl, rfl, rfl⟩

/-- **Segments are unique.** Stored bridges with different names have different VLANs, and different
segments if both have one. A well-formed request to create a bridge under an unused name is refused
as invalid, without a call and without any change, exactly when a stored bridge has its VLAN or its
segment. -/
theorem Reachable.segments_distinct (h : Reachable settings gateway) :
    (∀ one ∈ gateway.bridges.toList, ∀ other ∈ gateway.bridges.toList, one.name ≠ other.name →
      one.spec.vlan ≠ other.spec.vlan ∧
      ∀ vni vni', one.spec.vni = some vni → other.spec.vni = some vni' → vni ≠ vni') ∧
    ∀ {σ : Type} (backends : Backends σ) (draw : Draw) (id : String) (requested : LogicalBridge)
      (state : σ), checkOptionalId id = .ok () →
      gateway.bridges.get? (assignName Kind.bridge.collection id draw.id) = none →
      let served := gateway.step backends draw (.createBridge id requested) state
      ((∃ reason, served.answer = .error (.invalidArgument reason)) ∧ served.calls = [] ∧
        served.gateway = gateway ∧ served.backends = state) ↔
      ∃ stored ∈ gateway.bridges.toList, stored.spec.vlan = requested.spec.vlan ∨
        ∃ vni, stored.spec.vni = some vni ∧ requested.spec.vni = some vni := by
  refine ⟨fun one hone other hother hne => ?_,
    fun backends draw id requested state hid hfresh => ?_⟩
  · have hapart := h.segmented one other (mem_bridges_iff.mp hone) (mem_bridges_iff.mp hother) hne
    rw [LogicalBridgeSpec.overlaps_iff, not_or] at hapart
    refine ⟨hapart.1, ?_⟩
    rintro vni _ hvni hvni' rfl
    exact hapart.2 ⟨vni, hvni, hvni'⟩
  · simp only [← LogicalBridgeSpec.overlaps_iff]
    exact createBridge_refused_iff backends draw id requested state hid hfresh

/-- A VLAN that is asked for twice. -/
theorem Reachable.segments_distinct_blue :
    let draw : Draw := ⟨⟨0, 0⟩, .zero, ⟨0, 0⟩⟩
    let bridge : LogicalBridge := { spec := { vlan := ⟨10, by decide, by decide⟩ } }
    let served := ({} : Gateway).step Simulation.backends draw (.createBridge "blue" bridge) {}
    Reachable {} served.gateway ∧
      ∃ reason, (served.gateway.step Simulation.backends draw (.createBridge "red1" bridge)
        served.backends).answer = .error (.invalidArgument reason) := by
  intro draw bridge served
  have reachable : Reachable {} served.gateway := .step .fresh ..
  have hstored : newBridge draw "blue" bridge.spec ∈ served.gateway.bridges.toList := by
    decide +kernel
  exact ⟨reachable, ((reachable.segments_distinct.2 Simulation.backends draw "red1" bridge
    served.backends (by decide +kernel) (by decide +kernel)).mpr
      ⟨_, hstored, .inl rfl⟩).1⟩

end Gateway

end EvpnGateway
