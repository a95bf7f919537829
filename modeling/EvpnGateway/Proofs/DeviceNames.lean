import EvpnGateway.Backend.Simulation
import EvpnGateway.Proofs.Commit
import EvpnGateway.Proofs.WellFormed
/-!
# Names of devices

The devices that reach the backends carry ids that were chosen, ids that were drawn, or the number
of a segment in their names. Whichever it is, the name is one that the kernel takes for a link and
that means nothing else to a tool.

* `IsLinkName`: such names; `IsId.isLinkName`, `isLinkName_vxlanName`, `isLinkName_bridgeName`:
  where they come from; **`Resource.WellNamed.isLinkName_of_mem_devices`**;
* `Call.Legal`: calls with such names, with VLANs and segments in range; **`legal_of_realization`**,
  **`legal_of_teardown`**: resources are set up and taken down with such calls;
* `Simulation.error_of_linkAdd`: why a simulated kernel refuses a link with such a name;
* **`Gateway.Reachable.calls_legal`**.
-/

namespace EvpnGateway

/-! ## Names of links -/

/-- A name for a link: 3 to 15 lower-case ASCII letters, digits and hyphens with a letter in
front. -/
structure IsLinkName (name : String) : Prop where
  size : 3 ≤ Utf8.size name ∧ Utf8.size name ≤ 15
  first : ∃ c, name.toList.head? = some c ∧ isLetter c = true
  chars : ∀ c ∈ name.toList, isIdChar c = true

theorem IsId.isLinkName {id : String} (h : IsId id) (hsize : Utf8.size id ≤ 15) :
    IsLinkName id := by
  have hlength := size_eq_length h.chars
  have hid := h.length
  exact ⟨⟨by omega, hsize⟩, h.first, h.chars⟩

theorem length_toString_le {n : Nat} (h : n < 0x1000000) :
    1 ≤ (toString n).length ∧ (toString n).length ≤ 8 := by
  rw [Nat.toString_eq_repr, ← String.length_toList, Nat.toList_repr]
  exact ⟨Nat.length_toDigits_pos,
    Digits.length_numeral_le (by decide) (by decide) (h.trans (by decide))⟩

theorem isDigit_of_mem_toString {n : Nat} : ∀ c ∈ (toString n).toList, c.isDigit = true := by
  intro c hc
  rw [Nat.toString_eq_repr, Nat.toList_repr] at hc
  exact Digits.isDigit_of_mem_numeral c hc

theorem isLinkName_numbered {stem : String} {first : Char} {letters : List Char}
    (hstem : stem.toList = first :: letters) (hletters : (first :: letters).all isLetter)
    (hlength : 1 ≤ letters.length ∧ letters.length ≤ 6) (vni : Vni) :
    IsLinkName (stem ++ toString vni.number) := by
  have hname : (stem ++ toString vni.number).toList =
      first :: (letters ++ (toString vni.number).toList) := by
    rw [String.toList_append, hstem, List.cons_append]
  have hletter := List.all_eq_true.mp hletters
  have hchars : ∀ c ∈ (stem ++ toString vni.number).toList, isIdChar c = true := by
    intro c hc
    rw [String.toList_append, hstem] at hc
    rcases List.mem_append.mp hc with hstart | hend
    · exact isIdChar_iff.mpr (.inl (.inl (hletter c hstart)))
    · exact isIdChar_iff.mpr (.inl (.inr (isDigit_of_mem_toString c hend)))
  have hnumber := length_toString_le vni.lt
  refine ⟨?_, ⟨first, by rw [hname]; rfl, hletter first List.mem_cons_self⟩, hchars⟩
  rw [size_eq_length hchars, ← String.length_toList, hname, List.length_cons, List.length_append,
    String.length_toList]
  omega

theorem isLinkName_vxlanName (vni : Vni) : IsLinkName vni.vxlanName :=
  isLinkName_numbered (rfl : "vni".toList = ['v', 'n', 'i']) rfl (by decide) vni

theorem isLinkName_bridgeName (vni : Vni) : IsLinkName vni.bridgeName :=
  isLinkName_numbered (rfl : "br".toList = ['b', 'r']) rfl (by decide) vni

namespace Resource

variable {resource : Resource}

theorem WellNamed.isLinkName_shortId (h : resource.WellNamed) (hkind : resource.kind ≠ .bridge) :
    IsLinkName (shortId resource.name) := by
  obtain ⟨id, -, hid, hshort⟩ := h.id
  rw [hshort]
  cases hkind' : resource.kind with
  | vrf | port =>
    rw [hkind'] at hid
    exact hid.1.isLinkName hid.2
  | bridge => exact absurd hkind' hkind

/-- **The devices of a resource have names for links.** -/
theorem WellNamed.isLinkName_of_mem_devices (h : resource.WellNamed) :
    ∀ device ∈ resource.devices, IsLinkName device := by
  intro device hdevice
  cases resource with
  | vrf v =>
    rcases List.mem_cons.mp hdevice with rfl | hfabric
    · exact h.isLinkName_shortId nofun
    · cases hvni : v.spec.vni with
      | none => simp [hvni] at hfabric
      | some vni =>
        simp only [hvni, List.mem_cons, List.not_mem_nil, or_false] at hfabric
        rcases hfabric with rfl | rfl
        · exact isLinkName_bridgeName vni
        · exact isLinkName_vxlanName vni
  | bridge b =>
    simp only [devices] at hdevice
    cases hvni : b.spec.vni with
    | none => simp [hvni] at hdevice
    | some vni =>
      simp only [hvni, List.mem_singleton] at hdevice
      exact hdevice ▸ isLinkName_vxlanName vni
  | port p =>
    have hkind : Kind.port ≠ .bridge := by decide
    exact List.mem_singleton.mp hdevice ▸ h.isLinkName_shortId hkind

end Resource

/-! ## Calls -/

/-- The segment of a link. -/
def LinkKind.vni? : LinkKind → Option Vni
  | vxlan vni _ _ => some vni
  | _ => none

/-- Every name in the call is one for a link, or the tenant bridge where that is meant, every VLAN
is one from 1 to 4094 and every segment has 24 bits. A link that is modified is one that the backend
told of. -/
def Call.Legal (settings : Settings) : Call → Prop
  | linkAdd spec => IsLinkName spec.name ∧
    (∀ master ∈ spec.master, master = settings.tenantBridge ∨ IsLinkName master) ∧
    ∀ vni ∈ spec.kind.vni?, vni.number < 0x1000000
  | linkDel name | linkByName name | addressAdd name _ => IsLinkName name
  | linkModify _ => True
  | vlanAdd device vlan _ onBridge | vlanDel device vlan onBridge =>
    (if onBridge then device = settings.tenantBridge else IsLinkName device) ∧
      1 ≤ vlan.number ∧ vlan.number ≤ 4094
  | applyVrf vrf | removeVrf vrf => IsLinkName vrf.name ∧ ∀ vni ∈ vrf.vni, vni.number < 0x1000000

namespace Resource

variable {gateway : Gateway} {resource new : Resource} {calls : List Call}

/-- **Resources are set up with legal calls.** -/
theorem legal_of_realization (named : new.WellNamed) (h : gateway.realization new = .ok calls) :
    ∀ call ∈ calls, call.Legal gateway.settings := by
  cases new with
  | vrf v =>
    obtain rfl := Except.ok.inj h
    have hdevice : IsLinkName v.device := named.isLinkName_shortId nofun
    simp only [Vrf.realization, Vrf.linkCalls, List.forall_mem_append, List.forall_mem_singleton]
    refine ⟨⟨⟨⟨hdevice, nofun, nofun⟩, ?_⟩, ?_⟩, hdevice, fun vni _ => vni.lt⟩
    · cases v.spec.loopback with
      | none => exact fun _ hmem => absurd hmem List.not_mem_nil
      | some address => exact List.forall_mem_singleton.mpr hdevice
    · cases v.spec.vni with
      | none => exact fun _ hmem => absurd hmem List.not_mem_nil
      | some vni =>
        refine List.forall_mem_cons.mpr ⟨⟨isLinkName_bridgeName vni, ?_, nofun⟩,
          List.forall_mem_singleton.mpr ⟨isLinkName_vxlanName vni, ?_, fun vni _ => vni.lt⟩⟩
        · exact fun master hmaster => .inr (Option.some.inj hmaster ▸ hdevice)
        · exact fun master hmaster => .inr (Option.some.inj hmaster ▸ isLinkName_bridgeName vni)
  | bridge b =>
    obtain rfl := Gateway.calls_of_realization_bridge h
    have hvlan : 1 ≤ b.spec.vlan.number ∧ b.spec.vlan.number ≤ 4094 :=
      ⟨b.spec.vlan.pos, b.spec.vlan.le⟩
    refine List.forall_mem_cons.mpr ⟨⟨rfl, hvlan⟩, ?_⟩
    cases b.spec.vni with
    | none => exact fun _ hmem => absurd hmem List.not_mem_nil
    | some vni =>
      refine List.forall_mem_cons.mpr ⟨⟨isLinkName_vxlanName vni, ?_, fun vni _ => vni.lt⟩,
        List.forall_mem_singleton.mpr ⟨isLinkName_vxlanName vni, hvlan⟩⟩
      exact fun master hmaster => .inl (Option.some.inj hmaster).symm
  | port p =>
    obtain ⟨vlans, -, rfl⟩ := Gateway.calls_of_realization_port h
    have hdevice : IsLinkName p.device := named.isLinkName_shortId nofun
    refine List.forall_mem_cons.mpr ⟨⟨hdevice, ?_, nofun⟩, List.forall_mem_map.mpr fun vlan _ =>
      ⟨hdevice, vlan.pos, vlan.le⟩⟩
    exact fun master hmaster => .inl (Option.some.inj hmaster).symm

/-- **Resources are taken down with legal calls.** -/
theorem legal_of_teardown (named : resource.WellNamed) (settings : Settings) :
    ∀ call ∈ resource.teardown settings, call.Legal settings := by
  cases resource with
  | vrf v =>
    have hdevice : IsLinkName v.device := named.isLinkName_shortId nofun
    refine List.forall_mem_append.mpr ⟨?_, List.forall_mem_cons.mpr ⟨hdevice,
      List.forall_mem_singleton.mpr ⟨hdevice, fun vni _ => vni.lt⟩⟩⟩
    cases v.spec.vni with
    | none => exact fun _ hmem => absurd hmem List.not_mem_nil
    | some vni => exact List.forall_mem_cons.mpr ⟨isLinkName_vxlanName vni,
        List.forall_mem_singleton.mpr (isLinkName_bridgeName vni)⟩
  | bridge b =>
    refine List.forall_mem_append.mpr ⟨?_, List.forall_mem_singleton.mpr
      ⟨rfl, b.spec.vlan.pos, b.spec.vlan.le⟩⟩
    cases b.spec.vni with
    | none => exact fun _ hmem => absurd hmem List.not_mem_nil
    | some vni => exact List.forall_mem_singleton.mpr (isLinkName_vxlanName vni)
  | port p => exact List.forall_mem_singleton.mpr (named.isLinkName_shortId nofun)

end Resource

/-! ## Simulated links -/

/-- A simulated kernel that takes the name refuses a link on purpose, or because there is one. -/
theorem Simulation.error_of_linkAdd {spec : LinkSpec} {simulation : Simulation}
    {error : GatewayError} (hname : IsLinkName spec.name)
    (h : (Simulation.backends (.linkAdd spec) simulation).1 = .error error) :
    error = .link "link_add" "injected failure" ∨ error = .link "link_add" "file exists" := by
  have hsize : ¬ interfaceNameLimit < Utf8.size spec.name := not_lt.mpr hname.size.2
  simp only [backends, refusal?] at h
  by_cases hfails : (trip (.linkAdd spec) simulation.faults).1
  · rw [if_pos hfails] at h
    exact .inl (Except.error.inj h).symm
  · simp only [if_neg hfails, perform, if_neg hsize] at h
    split_ifs at h
    exact .inr (Except.error.inj h).symm

/-! ## Requests -/

namespace Gateway

variable {σ : Type} {settings : Settings} {gateway : Gateway} {backends : Backends σ} {draw : Draw}
  {request : Request} {state : σ}

/-- The calls behind a request are legal, since what is new and what is stored is well named. -/
theorem Reachable.legal_of_exchange (h : Reachable settings gateway)
    {exchange : Exchange Call Call.Reply}
    (hmem : exchange ∈ gateway.exchanges backends draw request state) :
    exchange.question.Legal settings := by
  rw [← h.settings_eq]
  have hnamed : ∀ resource ∈ gateway.resources, resource.WellNamed := fun resource hresource =>
    (h.wellFormed resource hresource).1
  exact question_of_mem_exchanges (Call.Legal gateway.settings)
    (fun new calls hcreate hcalls =>
      Resource.legal_of_realization (wellFormed_of_create hcreate).1 hcalls)
    (fun kind deletion resource _ hfound _ =>
      Resource.legal_of_teardown (hnamed resource (mem_resources_of_find? hfound)) _)
    (fun _ resource hresource => (hnamed resource hresource).isLinkName_of_mem_devices)
    (fun _ => trivial) hmem

/-- **Every device name that reaches the backends is one for a link.** So is every master but the
tenant bridge, and every VRF that the routing daemon is told about; VLANs and segments are in range.
So a simulated kernel never takes exception to the name of a new link. -/
theorem Reachable.calls_legal (h : Reachable settings gateway) (draw : Draw) (request : Request) :
    (∀ {σ : Type} (backends : Backends σ) (state : σ),
      ∀ call ∈ (gateway.step backends draw request state).calls, call.Legal settings) ∧
    ∀ simulation spec error, ⟨.linkAdd spec, .error error⟩ ∈
        gateway.exchanges Simulation.backends draw request simulation →
      error ≠ .link "link_add" ("\"" ++ spec.name ++ "\" not a valid ifname") := by
  refine ⟨fun backends state call hcall => ?_, fun simulation spec error hmem herror => ?_⟩
  · rw [← questions_exchanges] at hcall
    obtain ⟨exchange, hmem, rfl⟩ := List.mem_map.mp hcall
    exact h.legal_of_exchange hmem
  · obtain ⟨earlier, hreply⟩ := Interaction.exists_answer_of_mem_dialogue hmem
    -- the two errors that are left do not start with a quotation mark
    have hquoted : ∀ reason, error = .link "link_add" reason →
        reason.toList.head? = some '"' := by
      intro reason hreason
      rw [← (GatewayError.link.inj (herror.symm.trans hreason)).2]
      simp
    rcases Simulation.error_of_linkAdd (h.legal_of_exchange hmem).1 hreply with hfault | htaken
    · exact absurd (hquoted _ hfault) (by decide)
    · exact absurd (hquoted _ htaken) (by decide)

/-- A VRF whose owner chose no id, with the longest number that a segment can have. -/
theorem Reachable.calls_legal_blue :
    let draw : Draw := ⟨⟨0, 0⟩, .zero, ⟨0, 0⟩⟩
    let spec : VrfSpec := { vni := some ⟨16777215, by decide⟩ }
    let served := ({} : Gateway).step Simulation.backends draw (.createVrf "" { spec }) {}
    Reachable {} {} ∧ served.calls.filterMap Call.device? =
        ["r000000000000", "br16777215", "vni16777215"] ∧
      ∀ call ∈ served.calls, call.Legal {} := by
  intro draw spec served
  have reachable : Reachable {} {} := .fresh
  exact ⟨reachable, by decide +kernel, (reachable.calls_legal draw _).1 Simulation.backends {}⟩

end Gateway

end EvpnGateway
