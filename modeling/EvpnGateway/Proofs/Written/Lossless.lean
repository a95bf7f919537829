import EvpnGateway.Proofs.Written.Addresses
import EvpnGateway.Proofs.Written.JsonRecords
import EvpnGateway.Resource.Codec
/-!
# Nothing is lost in JSON

* `Faithful`: the reader of a type takes the written form of each value as that value; one lemma for
  each type, from network values to resources and pages of them;
* `Lossless`: texts that are written are read as what was written, and texts that are read can be
  written and read again; **`resources_lossless`**.
-/

namespace EvpnGateway

open Json (Fields Reads Reader)

/-- The reader of a type takes the written form of each value as that value. -/
def Faithful (α : Type) [ToJson α] [FromJson α] : Prop :=
  ∀ value : α, Reads FromJson.reader (toJson value) value

/-! ## Network values -/

theorem faithful_macAddress : Faithful MacAddress := fun mac =>
  (Reads.text mac.text).refine mac.parse_text

theorem faithful_ipPrefix : Faithful IpPrefix := fun value =>
  (Reads.text value.text).refine value.parse_text

theorem faithful_vlanId : Faithful VlanId := fun vlan =>
  (Reads.natural (lt_of_le_of_lt vlan.le (by decide)) (by decide)).refine
    (dif_pos ⟨vlan.pos, vlan.le⟩)

theorem faithful_vni : Faithful Vni := fun vni =>
  (Reads.natural (lt_of_lt_of_le vni.lt (by decide)) (by decide)).refine (dif_pos vni.lt)

theorem reads_word (word : UInt32) : Reads readWord (.number word.toNat) word := by
  have h : Reads readWord (.number word.toNat) (UInt32.ofNat word.toNat) :=
    (Reads.natural word.toNat_lt (by decide)).map UInt32.ofNat
  rwa [UInt32.ofNat_toNat] at h

/-! ## Fields -/

theorem Json.Fields.Due.perhaps {α : Type} [ToJson α] [FromJson α] {αs : List Type}
    {rest : Fields αs} {slots : Json.Slots αs} {members : List (String × Json)}
    {values : Json.Values αs} (hfaithful : Faithful α) (hnull : ∀ value : α, toJson value ≠ .null)
    (name : String) (value : Option α) (h : rest.Due slots members values) :
    Fields.Due (.cons (EvpnGateway.perhaps name FromJson.reader) rest) (none, slots)
      (member? name value ++ members) (value, values) := by
  cases value with
  | none => exact .absent rfl h
  | some value => exact .next ((hfaithful value).optional (hnull value)) h

/-! ## VRFs -/

theorem faithful_vrfSpec : Faithful VrfSpec := by
  intro spec
  refine Reads.record (spec.vni, spec.loopback, spec.vtep, ()) rfl (by decide) ?_
  rw [List.append_assoc, ← List.append_nil (member? "vtep_ip_prefix" spec.vtep)]
  refine .perhaps faithful_vni nofun "vni" spec.vni ?_
  refine .perhaps faithful_ipPrefix nofun "loopback_ip_prefix" spec.loopback ?_
  exact .perhaps faithful_ipPrefix nofun "vtep_ip_prefix" spec.vtep .nil

theorem faithful_vrfStatus : Faithful VrfStatus := by
  intro status
  refine Reads.record (status.localAs, status.routingTable, status.routerMac, ()) rfl (by decide) ?_
  exact .next (reads_word status.localAs) <| .next (reads_word status.routingTable) <|
    .next (faithful_macAddress status.routerMac) .nil

theorem faithful_vrf : Faithful Vrf := by
  intro vrf
  refine Reads.record (vrf.name, vrf.spec, vrf.status, ()) rfl (by decide) ?_
  exact .next (.text vrf.name) <| .next (faithful_vrfSpec vrf.spec) <|
    .next (faithful_vrfStatus vrf.status) .nil

/-! ## Logical bridges -/

theorem faithful_operStatus : Faithful OperStatus := by
  intro status
  cases status <;> exact .alternative rfl

theorem reads_status (title : String) (status : OperStatus) :
    Reads (readStatus title) (statusJson status) status :=
  Reads.record (status, ()) rfl (by decide) (.next (faithful_operStatus status) .nil)

theorem faithful_bridgeSpec : Faithful LogicalBridgeSpec := by
  intro spec
  refine Reads.record (spec.vni, spec.vlan, ()) rfl (by decide) ?_
  exact .perhaps faithful_vni nofun "vni" spec.vni <| .next (faithful_vlanId spec.vlan) .nil

theorem faithful_bridge : Faithful LogicalBridge := by
  intro bridge
  refine Reads.record (bridge.name, bridge.spec, bridge.status, ()) rfl (by decide) ?_
  exact .next (.text bridge.name) <| .next (faithful_bridgeSpec bridge.spec) <|
    .next (reads_status _ bridge.status) .nil

/-! ## Bridge ports -/

theorem faithful_portType : Faithful PortType := by
  intro type
  cases type <;> exact .alternative rfl

theorem faithful_portSpec : Faithful BridgePortSpec := by
  intro spec
  have hbridges : Reads (.listOf .text) (.array (spec.bridges.map .string)) spec.bridges :=
    .listOf (List.forall₂_map_left_iff.mpr (List.forall₂_same.mpr fun name _ => .text name))
  refine Reads.record (spec.mac, spec.type, spec.bridges, ()) rfl (by decide) ?_
  exact .next (faithful_macAddress spec.mac) <| .next (faithful_portType spec.type) <|
    .next hbridges .nil

theorem faithful_port : Faithful BridgePort := by
  intro port
  refine Reads.record (port.name, port.spec, port.status, ()) rfl (by decide) ?_
  exact .next (.text port.name) <| .next (faithful_portSpec port.spec) <|
    .next (reads_status _ port.status) .nil

/-! ## Pages -/

theorem faithful_listing {α : Type} [ToJson α] [FromJson α] (h : Faithful α) :
    Faithful (Listing α) := by
  intro listing
  have hitems : Reads (.listOf FromJson.reader) (.array (listing.items.map toJson))
      listing.items :=
    .listOf (List.forall₂_map_left_iff.mpr (List.forall₂_same.mpr fun item _ => h item))
  have hnames : ["items", "next_page_token"].Nodup := by decide
  refine Reads.record (listing.items, listing.nextToken, ()) rfl hnames ?_
  exact .next hitems <| .next (.text listing.nextToken) .nil

/-! ## Decoding and encoding -/

/-- Encoding and decoding lose nothing: what is written is read again, and what was read can be
written and read again. -/
structure Lossless (α : Type) [ToJson α] [FromJson α] : Prop where
  undo : ∀ value : α, fromJson α (toJson value).render = .ok value
  settle : ∀ source value, fromJson α source = .ok value →
    fromJson α (toJson value).render = .ok value

theorem Faithful.lossless {α : Type} [ToJson α] [FromJson α] (h : Faithful α) : Lossless α where
  undo value := Json.decode_render (h value)
  settle _ value _ := Json.decode_render (h value)

/-- **Resources, pages of VRFs and network values are lossless in JSON.** -/
theorem resources_lossless : Lossless Vrf ∧ Lossless LogicalBridge ∧ Lossless BridgePort ∧
    Lossless (Listing Vrf) ∧ Lossless MacAddress ∧ Lossless IpPrefix ∧ Lossless VlanId ∧
    Lossless Vni :=
  ⟨faithful_vrf.lossless, faithful_bridge.lossless, faithful_port.lossless,
    (faithful_listing faithful_vrf).lossless, faithful_macAddress.lossless,
    faithful_ipPrefix.lossless, faithful_vlanId.lossless, faithful_vni.lossless⟩

end EvpnGateway
