import EvpnGateway.Proofs.Journal
import EvpnGateway.Proofs.Ownership
/-!
# Teardown mirrors realization

A resource is taken down from what is stored of it, maybe long after it was set up. Still both sides
fit: what was added last is removed first, under the same name, and the routing daemon is told the
same VRF twice.

* `Call.undo?`, `mirror`: calls that undo others; `filterMap_mirror`: what the two have in common;
* **`Resource.teardown_eq_mirror`**: a resource is taken down with the mirror of its calls;
* `Call.applied?`, `Call.withdrawn?`, `Call.joined?`, `Call.left?`: routing and VLANs in calls;
  `Resource.routing?`, `Resource.tenantVlan?`: those of a resource;
* **`Journal.teardown_mirrors`**.
-/

namespace EvpnGateway

/-! ## Mirrored calls -/

namespace Call

/-- The call that undoes a call. The address of a link and the VLANs that it carries for a bridge
vanish with the link. -/
def undo? : Call → Option Call
  | linkAdd spec => some (linkDel spec.name)
  | vlanAdd device vlan _ true => some (vlanDel device vlan true)
  | applyVrf vrf => some (removeVrf vrf)
  | _ => none

/-- The call is one to the routing daemon. -/
def isRouting : Call → Bool
  | applyVrf _ | removeVrf _ => true
  | _ => false

/-- The VRF that the routing daemon is told about. -/
def applied? : Call → Option VrfRouting
  | applyVrf vrf => some vrf
  | _ => none

/-- The VRF that the routing daemon is to forget. -/
def withdrawn? : Call → Option VrfRouting
  | removeVrf vrf => some vrf
  | _ => none

/-- The VLAN that a bridge joins itself. -/
def joined? : Call → Option (String × VlanId)
  | vlanAdd bridge vlan _ true => some (bridge, vlan)
  | _ => none

/-- The VLAN that a bridge leaves itself. -/
def left? : Call → Option (String × VlanId)
  | vlanDel bridge vlan true => some (bridge, vlan)
  | _ => none

end Call

/-- What undoes calls about links, from the last to the first, and then what undoes calls about
routing. -/
def mirror (calls : List Call) : List Call :=
  (calls.filter fun call => ¬ call.isRouting).reverse.filterMap Call.undo? ++
    (calls.filter Call.isRouting).reverse.filterMap Call.undo?

section Mirrors

variable {α : Type} {done undone : Call → Option α}

theorem filterMap_filter_of_none {keep : Call → Bool} (calls : List Call)
    (h : ∀ call, keep call = false → done call = none) :
    (calls.filter keep).filterMap done = calls.filterMap done := by
  rw [List.filterMap_filter]
  congr 1
  funext call
  split_ifs with hkeep
  · rfl
  · exact (h call (Bool.eq_false_iff.mpr hkeep)).symm

/-- A mirror undoes what was done, in reverse, as far as links or routing alone are concerned. -/
theorem filterMap_mirror (calls : List Call) (hundo : ∀ call, call.undo?.bind undone = done call)
    (hsort : (∀ call, call.isRouting → done call = none) ∨
      ∀ call, call.isRouting = false → done call = none) :
    (mirror calls).filterMap undone = (calls.filterMap done).reverse := by
  have hpart : ∀ part : List Call, (part.reverse.filterMap Call.undo?).filterMap undone =
      (part.filterMap done).reverse := by
    intro part
    rw [List.filterMap_filterMap, funext hundo, List.filterMap_reverse]
  rw [mirror, List.filterMap_append, hpart, hpart]
  -- one of the two parts contributes nothing, and the other all
  rcases hsort with hlinks | hrouting
  · rw [filterMap_filter_of_none calls (by simpa using hlinks),
      List.filterMap_eq_nil_iff.mpr fun call hmem => hlinks call (List.of_mem_filter hmem)]
    exact List.append_nil _
  · rw [filterMap_filter_of_none calls hrouting, List.filterMap_eq_nil_iff.mpr fun call hmem =>
      hrouting call (by simpa using List.of_mem_filter hmem)]
    exact List.nil_append _

theorem withdrawn_mirror (calls : List Call) :
    (mirror calls).filterMap Call.withdrawn? = (calls.filterMap Call.applied?).reverse := by
  refine filterMap_mirror calls (fun call => ?_) (.inr fun call hcall => ?_)
  · cases call with
    | vlanAdd device vlan tagging onBridge => cases onBridge <;> rfl
    | _ => rfl
  · cases call with
    | applyVrf vrf => exact nomatch hcall
    | _ => rfl

theorem left_mirror (calls : List Call) :
    (mirror calls).filterMap Call.left? = (calls.filterMap Call.joined?).reverse := by
  refine filterMap_mirror calls (fun call => ?_) (.inl fun call hcall => ?_)
  · cases call with
    | vlanAdd device vlan tagging onBridge => cases onBridge <;> rfl
    | _ => rfl
  · cases call with
    | applyVrf | removeVrf => rfl
    | _ => exact nomatch hcall

end Mirrors

namespace Resource

variable {gateway : Gateway} {new : Resource} {calls : List Call}

/-- The VRF that the routing daemon is told about. -/
def routing? (settings : Settings) : Resource → Option VrfRouting
  | vrf v => some (v.routing settings)
  | _ => none

/-- The VLAN that the tenant bridge carries for a bridge. -/
def tenantVlan? (settings : Settings) : Resource → Option (String × VlanId)
  | bridge b => some (settings.tenantBridge, b.spec.vlan)
  | _ => none

/-- **A resource is taken down with the mirror of its calls.** -/
theorem teardown_eq_mirror (h : gateway.realization new = .ok calls) :
    new.teardown gateway.settings = mirror calls := by
  cases new with
  | vrf v =>
    obtain rfl := Except.ok.inj h
    unfold Vrf.realization Vrf.linkCalls
    simp only [teardown, Vrf.teardown]
    cases v.spec.loopback <;> cases v.spec.vni <;> rfl
  | bridge b =>
    obtain rfl := Gateway.calls_of_realization_bridge h
    unfold LogicalBridge.realization
    simp only [teardown, LogicalBridge.teardown]
    cases b.spec.vni <;> rfl
  | port p =>
    obtain ⟨vlans, -, rfl⟩ := Gateway.calls_of_realization_port h
    simp [teardown, BridgePort.teardown, BridgePort.realization, mirror, List.filter_map,
      Function.comp_def, Call.isRouting, Call.undo?]

theorem withdrawn_of_teardown (resource : Resource) (settings : Settings) :
    (resource.teardown settings).filterMap Call.withdrawn? =
      (resource.routing? settings).toList := by
  cases resource with
  | vrf v =>
    simp only [teardown, Vrf.teardown]
    cases v.spec.vni <;> rfl
  | bridge b =>
    simp only [teardown, LogicalBridge.teardown]
    cases b.spec.vni <;> rfl
  | port p => rfl

theorem left_of_teardown (resource : Resource) (settings : Settings) :
    (resource.teardown settings).filterMap Call.left? =
      (resource.tenantVlan? settings).toList := by
  cases resource with
  | vrf v =>
    simp only [teardown, Vrf.teardown]
    cases v.spec.vni <;> rfl
  | bridge b =>
    simp only [teardown, LogicalBridge.teardown]
    cases b.spec.vni <;> rfl
  | port p => rfl

theorem applied_of_realization (h : gateway.realization new = .ok calls) :
    calls.filterMap Call.applied? = (new.routing? gateway.settings).toList := by
  have hwithdrawn := new.withdrawn_of_teardown gateway.settings
  rw [teardown_eq_mirror h, withdrawn_mirror] at hwithdrawn
  rw [List.reverse_eq_iff.mp hwithdrawn]
  cases new.routing? gateway.settings <;> rfl

theorem joined_of_realization (h : gateway.realization new = .ok calls) :
    calls.filterMap Call.joined? = (new.tenantVlan? gateway.settings).toList := by
  have hleft := new.left_of_teardown gateway.settings
  rw [teardown_eq_mirror h, left_mirror] at hleft
  rw [List.reverse_eq_iff.mp hleft]
  cases new.tenantVlan? gateway.settings <;> rfl

end Resource

/-! ## Creation and deletion -/

namespace Journal

variable {settings : Settings} {gateway : Gateway} {entries past between later : List Entry}
  {creation deletion : Entry} {resource : Resource}

/-- **Teardown mirrors realization.** Let a resource be created and later deleted, with any requests
in between that do not delete it. All calls of both succeeded, and those of the deletion are the
mirror of those of the creation: the links of the resource are deleted in the reverse of the order
in which they were added, the routing daemon is to forget the very VRF that it was told about, and
the tenant bridge leaves the VLAN that it joined. -/
theorem teardown_mirrors (h : Journal settings gateway entries)
    (hentries : entries = past ++ creation :: (between ++ deletion :: later))
    (hcreates : creation.Creates resource)
    (hkept : ∀ other ∈ between, ¬ other.Deletes resource.kind resource.name)
    (hdeletes : deletion.Deletes resource.kind resource.name) :
    (∀ exchange ∈ creation.exchanges ++ deletion.exchanges, exchange.succeeded) ∧
    deletion.calls = mirror creation.calls ∧
    (creation.calls.filterMap Call.added? = resource.devices ∧
      deletion.calls.filterMap Call.removed? = resource.devices.reverse) ∧
    (creation.calls.filterMap Call.applied? = (resource.routing? settings).toList ∧
      deletion.calls.filterMap Call.withdrawn? = (resource.routing? settings).toList) ∧
    (creation.calls.filterMap Call.joined? = (resource.tenantVlan? settings).toList ∧
      deletion.calls.filterMap Call.left? = (resource.tenantVlan? settings).toList) := by
  obtain ⟨hcalls, hcreated, hafter⟩ := h.calls_of_creates (by simp [hentries]) hcreates
  have hbefore : creation.gateway.settings = settings := (h.prior hentries).reachable.settings_eq
  -- the resource is still there when it is deleted
  rw [← List.cons_append, ← List.append_assoc] at hentries
  have hstored : resource ∈ deletion.gateway.resources := by
    refine (h.prior hentries).kept_after rfl ?_ hkept
    rw [hafter]
    exact Gateway.mem_resources_put.mpr (.inl rfl)
  obtain ⟨hteardown, hdeleted⟩ := h.calls_of_deletes (by simp [hentries]) hstored hdeletes
  rw [hteardown]
  refine ⟨List.forall_mem_append.mpr ⟨hcreated, hdeleted⟩, ?_,
    ⟨Resource.added_of_realization hcalls, resource.removed_of_teardown settings⟩,
    ⟨?_, resource.withdrawn_of_teardown settings⟩, ?_, resource.left_of_teardown settings⟩ <;>
    rw [← hbefore]
  · exact Resource.teardown_eq_mirror hcalls
  · exact Resource.applied_of_realization hcalls
  · exact Resource.joined_of_realization hcalls

/-- A VRF with a segment that is created, updated, taken down in vain and then deleted. -/
theorem teardown_mirrors_blue :
    let draw : Draw := ⟨⟨0, 0⟩, .zero, ⟨0, 0⟩⟩
    let spec : VrfSpec := { vni := some ⟨100, by decide⟩ }
    let vrf : Vrf := ({} : Gateway).newVrf draw "blue" spec
    let create : Request := .createVrf "blue" { spec }
    let update : Request := .updateVrf { name := "vrfs/blue", spec }
    let delete : Request := .deleteVrf { name := "vrfs/blue" }
    let kernel : Simulation := { links := (Resource.vrf vrf).devices.map fun name => { name } }
    let one := ({} : Gateway).step Simulation.backends draw create {}
    let two := one.gateway.step Simulation.backends draw update kernel
    let three := two.gateway.step Simulation.backends draw delete {}
    let four := three.gateway.step Simulation.backends draw delete kernel
    let creation := ({} : Gateway).record Simulation.backends draw create {}
    let between := [one.gateway.record Simulation.backends draw update kernel,
      two.gateway.record Simulation.backends draw delete {}]
    let deletion := three.gateway.record Simulation.backends draw delete kernel
    Journal {} four.gateway (creation :: (between ++ [deletion])) ∧
      creation.Creates (.vrf vrf) ∧ (∀ other ∈ between, ¬ other.Deletes .vrf "vrfs/blue") ∧
      deletion.Deletes .vrf "vrfs/blue" ∧ deletion.calls = mirror creation.calls ∧
      deletion.calls.filterMap Call.removed? = ["vni100", "br100", "blue"] := by
  intro draw spec vrf create update delete kernel one two three four creation between deletion
  have journal : Journal {} four.gateway (creation :: (between ++ [deletion])) :=
    .serve (.serve (.serve (.serve .start Simulation.backends draw create {})
      Simulation.backends draw update kernel) Simulation.backends draw delete {})
      Simulation.backends draw delete kernel
  have hcreates : creation.Creates (.vrf vrf) := ⟨⟨_, rfl⟩, rfl, by decide +kernel⟩
  have hanswers : ∀ other ∈ between, other.answer ≠ .ok .deleted := by decide +kernel
  have hkept : ∀ other ∈ between, ¬ other.Deletes .vrf "vrfs/blue" :=
    fun other hmem hdeletes => hanswers other hmem hdeletes.answered
  have hdeletes : deletion.Deletes .vrf "vrfs/blue" := ⟨⟨_, rfl, rfl⟩, by decide +kernel⟩
  obtain ⟨-, hmirror, ⟨-, hremoved⟩, -⟩ :=
    @teardown_mirrors _ _ _ [] between [] creation deletion _ journal rfl hcreates hkept hdeletes
  refine ⟨journal, hcreates, hkept, hdeletes, hmirror, hremoved.trans ?_⟩
  decide +kernel

end Journal

end EvpnGateway
