import EvpnGateway.Proofs.Frozen
import EvpnGateway.Proofs.Names
/-!
# Naming

A name is made of a collection and an id, its check goes by the collection in front, and the id is
read off behind the last slash. The three agree on all texts. The name that the body of a request
carries plays no part.

* `Request.Creates`: requests to create, with the chosen id and the name in the body;
* `assigned_of_create`, `named_of_answer`: a new resource has the name that is assigned to it, and
  so has the one that the request is answered with;
* **`Gateway.names_invert`**: names and ids are inverse to each other.
-/

namespace EvpnGateway

/-- The request is to create a resource of a kind; its owner chose the id, or none where it is
empty, and its body carries the name. -/
inductive Request.Creates : Request → Kind → String → String → Prop where
  | vrf (id : String) (body : Vrf) : Creates (.createVrf id body) .vrf id body.name
  | bridge (id : String) (body : LogicalBridge) :
    Creates (.createBridge id body) .bridge id body.name
  | port (id : String) (body : BridgePort) : Creates (.createPort id body) .port id body.name

namespace Gateway

variable {σ : Type} {gateway : Gateway} {draw : Draw} {request : Request} {kind : Kind}
  {chosen carried : String} {answer : Answer}

/-- What a request to create wants has the name that is assigned to it, and its check goes through
the chosen id. -/
theorem assigned_of_create (h : request.Creates kind chosen carried) (gateway : Gateway)
    (draw : Draw) : ∃ check new, gateway.intent draw request = .create check new ∧
      (check = .ok () → checkOptionalId chosen = .ok ()) ∧ new.kind = kind ∧
      new.name = assignName kind.collection chosen draw.id := by
  cases h with
  | vrf id body => exact ⟨_, _, rfl, checkOptionalId_of_checkInterfaceId, rfl, rfl⟩
  | bridge id body => exact ⟨_, _, rfl, fun hcheck => hcheck, rfl, rfl⟩
  | port id body =>
    refine ⟨_, _, rfl, fun hcheck => ?_, rfl, rfl⟩
    exact checkOptionalId_of_checkInterfaceId (checkPort_eq_ok hcheck).2.2.2.2

/-- A request to create that is answered passed the check of its id, and the resource in the answer,
new or not, has the name that is assigned. -/
theorem named_of_answer {backends : Backends σ} {state : σ}
    (h : request.Creates kind chosen carried)
    (hanswer : (gateway.step backends draw request state).answer = .ok answer) :
    checkOptionalId chosen = .ok () ∧ ∃ resource : Resource, answer = resource.answer ∧
      resource.kind = kind ∧ resource.name = assignName kind.collection chosen draw.id := by
  obtain ⟨check, new, hintent, hchosen, rfl, hname⟩ := assigned_of_create h gateway draw
  obtain ⟨undertaking, hdecision, rfl, -⟩ := decide_of_answer hanswer
  rw [hintent] at hdecision
  obtain ⟨hcheck, ⟨existing, hfound, rfl⟩ | ⟨-, calls, -, rfl⟩⟩ := decide_create hdecision
  · -- the name is in use, and what is stored under it is shown
    obtain ⟨hkind, hsame⟩ := kind_name_of_find? hfound
    exact ⟨hchosen hcheck, existing, rfl, hkind, hsame.trans hname⟩
  · exact ⟨hchosen hcheck, new, rfl, rfl, hname⟩

/-- **Names and ids are inverse to each other.** The names that pass the check for a collection are
those of the collection, a slash and an id that is not empty and has neither slashes nor white
space; the id is read off such a name, and with it the name is built again. The name that is
assigned to a new resource passes, whatever is drawn, and the id in it is the chosen one if there is
one. A request to create that succeeds is answered with a resource of that very name, whatever name
its body carries. -/
theorem names_invert (kind : Kind) :
    (∀ name, checkName kind.collection name = .ok () ↔
      ∃ id, name = kind.collection ++ "/" ++ id ∧ IsSegment id) ∧
    (∀ name id, name = kind.collection ++ "/" ++ id → IsSegment id →
      shortId name = id ∧ fullName kind.collection (shortId name) = name) ∧
    (∀ chosen uuid, chosen = "" ∨ checkId chosen = .ok () →
      let name := assignName kind.collection chosen uuid
      checkName kind.collection name = .ok () ∧
        shortId name = if chosen.isEmpty then newId kind.collection uuid else chosen) ∧
    ∀ {σ : Type} (backends : Backends σ) (gateway : Gateway) draw state request chosen carried
      answer, request.Creates kind chosen carried →
      (gateway.step backends draw request state).answer = .ok answer →
      (chosen = "" ∨ checkId chosen = .ok ()) ∧ ∃ resource : Resource,
        answer = resource.answer ∧ resource.kind = kind ∧
          resource.name = assignName kind.collection chosen draw.id := by
  have hoptional : ∀ {chosen : String},
      checkOptionalId chosen = .ok () ↔ chosen = "" ∨ checkId chosen = .ok () := by
    intro chosen
    rw [checkOptionalId_eq_ok_iff, checkId_eq_ok_iff]
  refine ⟨fun name => ?_, fun name id hname hid => ?_, fun chosen uuid hchosen => ?_,
    fun backends gateway draw state request chosen carried answer h hanswer => ?_⟩
  · rw [checkName_eq_ok_iff, isName_iff]
    rfl
  · obtain rfl : name = fullName kind.collection id := hname
    exact ⟨shortId_fullName hid.slash, (isName_fullName_iff.mpr hid).fullName_shortId⟩
  · exact ⟨checkName_assignName (hoptional.mpr hchosen), shortId_assignName (hoptional.mpr hchosen)⟩
  · rw [← hoptional]
    exact named_of_answer h hanswer

/-- A name with an id that owners may not choose, and a bridge that is called after its collection
although the body of the request names a VRF. -/
theorem names_invert_bridges :
    let draw : Draw := ⟨⟨0, 0⟩, .zero, ⟨0, 0⟩⟩
    let vlan : VlanId := ⟨10, by decide, by decide⟩
    let body : LogicalBridge := { name := "vrfs/blue", spec := { vlan } }
    let served := ({} : Gateway).step Simulation.backends draw (.createBridge "bridges" body) {}
    let bridge : LogicalBridge := { body with name := "bridges/bridges", status := .up }
    (IsSegment "Größe" ∧ checkId "bridges" = .ok () ∧ served.answer = .ok (.bridge bridge)) ∧
    checkName "bridges" "bridges/Größe" = .ok () ∧
    (shortId "bridges/Größe" = "Größe" ∧
      fullName "bridges" (shortId "bridges/Größe") = "bridges/Größe") ∧
    (checkName "bridges" (assignName "bridges" "bridges" draw.id) = .ok () ∧
      shortId (assignName "bridges" "bridges" draw.id) = "bridges") ∧
    ∃ resource : Resource, Answer.bridge bridge = resource.answer ∧
      resource.name = assignName "bridges" "bridges" draw.id := by
  intro draw vlan body served bridge
  have hblank : "Größe".toList.any isBlank = false := by decide +kernel
  have hid : IsSegment "Größe" := ⟨by decide, by decide +kernel, fun c hc =>
    Bool.eq_false_of_not_eq_true (List.any_eq_false.mp hblank c hc)⟩
  have hchosen : checkId "bridges" = .ok () := by decide +kernel
  have hanswer : served.answer = .ok (.bridge bridge) := by decide +kernel
  obtain ⟨hcheck, hinverse, hassigned, hcreated⟩ := names_invert .bridge
  obtain ⟨-, resource, hresource, -, hname⟩ := hcreated Simulation.backends {} draw {} _ "bridges"
    "vrfs/blue" _ (.bridge "bridges" body) hanswer
  exact ⟨⟨hid, hchosen, hanswer⟩, (hcheck _).mpr ⟨"Größe", rfl, hid⟩,
    hinverse "bridges/Größe" "Größe" rfl hid, hassigned "bridges" draw.id (.inr hchosen),
    resource, hresource, hname⟩

end Gateway

end EvpnGateway
