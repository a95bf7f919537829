import EvpnGateway.Gateway.Request
import EvpnGateway.Proofs.Pages
import EvpnGateway.Proofs.Stores
/-!
# Resources of all kinds

The three stores of a gateway read as one: resources of any kind under a kind and a name.

* `Resource` with its `kind`, its `name` and the `answer` that shows it; `Answer.items`,
  `Answer.listing?`: what an answer shows;
* `Resource.devices`: the links that belong to a resource;
* `Gateway.find?`, `put`, `drop`, `resources`, `entries`: one entry, its replacement, its removal,
  all entries, those of a kind;
* **`find?_put`**, **`find?_drop`**: only the entry of one kind and name changes;
* `resources_put`, `resources_drop`: a new resource joins the others, a dropped one leaves them.
-/

namespace EvpnGateway

/-- A resource of any kind. -/
inductive Resource where
  | vrf (vrf : Vrf)
  | bridge (bridge : LogicalBridge)
  | port (port : BridgePort)
  deriving DecidableEq, Repr

namespace Resource

/-- The kind of a resource. -/
def kind : Resource → Kind
  | vrf _ => .vrf
  | bridge _ => .bridge
  | port _ => .port

/-- The name under which a resource is stored. -/
def name : Resource → String
  | vrf v => v.name
  | bridge b => b.name
  | port p => p.name

/-- The answer that shows a resource. -/
def answer : Resource → Answer
  | vrf v => .vrf v
  | bridge b => .bridge b
  | port p => .port p

theorem answer_injective : Function.Injective answer := by
  rintro (_ | _ | _) (_ | _ | _) h <;> simp_all [answer]

/-- The links that belong to a resource: they carry its id or its VNI in their names. -/
def devices : Resource → List String
  | vrf v => v.device :: match v.spec.vni with
    | some vni => [vni.bridgeName, vni.vxlanName]
    | none => []
  | bridge b => match b.spec.vni with
    | some vni => [vni.vxlanName]
    | none => []
  | port p => [p.device]

/-- A resource with the status that it has under the settings. -/
def reported (settings : Settings) : Resource → Resource
  | vrf v => vrf (v.reported settings)
  | bridge b => bridge { b with status := .up }
  | port p => port { p with status := .up }

end Resource

/-- The resources that an answer shows. -/
def Answer.items : Answer → List Resource
  | vrf v => [.vrf v]
  | bridge b => [.bridge b]
  | port p => [.port p]
  | deleted => []
  | vrfs listing => listing.items.map .vrf
  | bridges listing => listing.items.map .bridge
  | ports listing => listing.items.map .port

@[simp] theorem Answer.items_answer (resource : Resource) :
    resource.answer.items = [resource] := by cases resource <;> rfl

/-- The page that an answer shows. -/
def Answer.listing? : Answer → Option (Listing Resource)
  | vrfs listing => some (listing.map .vrf)
  | bridges listing => some (listing.map .bridge)
  | ports listing => some (listing.map .port)
  | vrf _ | bridge _ | port _ | deleted => none

theorem Answer.items_of_listing? {answer : Answer} {listing : Listing Resource}
    (h : answer.listing? = some listing) : answer.items = listing.items := by
  cases answer <;> simp only [listing?, reduceCtorEq, Option.some.injEq] at h <;>
    exact congrArg Listing.items h

namespace Gateway

/-- The stored resource of a kind and a name. -/
def find? (gateway : Gateway) (kind : Kind) (name : String) : Option Resource :=
  match kind with
  | .vrf => (gateway.vrfs.get? name).map .vrf
  | .bridge => (gateway.bridges.get? name).map .bridge
  | .port => (gateway.ports.get? name).map .port

/-- The gateway with a resource stored under its name. -/
def put (gateway : Gateway) : Resource → Gateway
  | .vrf vrf => { gateway with vrfs := gateway.vrfs.insert vrf }
  | .bridge bridge => { gateway with bridges := gateway.bridges.insert bridge }
  | .port port => { gateway with ports := gateway.ports.insert port }

/-- The gateway without the resource of a kind and a name. -/
def drop (gateway : Gateway) (kind : Kind) (name : String) : Gateway :=
  match kind with
  | .vrf => { gateway with vrfs := gateway.vrfs.erase name }
  | .bridge => { gateway with bridges := gateway.bridges.erase name }
  | .port => { gateway with ports := gateway.ports.erase name }

/-- All stored resources. -/
def resources (gateway : Gateway) : List Resource :=
  gateway.vrfs.toList.map .vrf ++ gateway.bridges.toList.map .bridge ++
    gateway.ports.toList.map .port

/-- The stored resources of a kind in the order of their names. -/
def entries (gateway : Gateway) : Kind → List Resource
  | .vrf => gateway.vrfs.toList.map .vrf
  | .bridge => gateway.bridges.toList.map .bridge
  | .port => gateway.ports.toList.map .port

variable {gateway : Gateway} {resource : Resource} {kind : Kind} {name : String}

@[simp] theorem settings_put : (gateway.put resource).settings = gateway.settings := by
  cases resource <;> rfl

@[simp] theorem settings_drop : (gateway.drop kind name).settings = gateway.settings := by
  cases kind <;> rfl

@[simp] theorem tokens_put : (gateway.put resource).tokens = gateway.tokens := by
  cases resource <;> rfl

@[simp] theorem tokens_drop : (gateway.drop kind name).tokens = gateway.tokens := by
  cases kind <;> rfl

/-! ## Look-ups -/

theorem kind_name_of_find? (h : gateway.find? kind name = some resource) :
    resource.kind = kind ∧ resource.name = name := by
  cases kind <;> simp only [find?, Option.map_eq_some_iff] at h <;>
    obtain ⟨entry, hentry, rfl⟩ := h <;> exact ⟨rfl, Store.name_of_get? hentry⟩

/-- **Storing a resource changes one entry.** -/
theorem find?_put (gateway : Gateway) (resource : Resource) (kind : Kind) (name : String) :
    (gateway.put resource).find? kind name =
      if resource.kind = kind ∧ resource.name = name then some resource
      else gateway.find? kind name := by
  rcases resource with vrf | bridge | port <;> cases kind <;>
    simp only [put, find?, Resource.kind, Resource.name, Store.get?_insert, reduceCtorEq,
      true_and, false_and, if_false] <;>
    exact apply_ite _ _ _ _

/-- **Dropping a resource changes one entry.** -/
theorem find?_drop (gateway : Gateway) (dropped kind : Kind) (gone name : String) :
    (gateway.drop dropped gone).find? kind name =
      if dropped = kind ∧ gone = name then none else gateway.find? kind name := by
  cases dropped <;> cases kind <;>
    simp only [drop, find?, Store.get?_erase, reduceCtorEq, true_and, false_and, if_false] <;>
    exact apply_ite _ _ _ _

theorem put_of_find? (h : gateway.find? resource.kind resource.name = some resource) :
    gateway.put resource = gateway := by
  rcases resource with vrf | bridge | port <;>
    simp only [find?, Resource.kind, Resource.name, Option.map_eq_some_iff] at h <;>
    obtain ⟨entry, hentry, hsame⟩ := h <;> cases hsame <;>
    rw [put, Store.insert_of_get? hentry]

/-! ## All resources -/

theorem mem_resources_iff :
    resource ∈ gateway.resources ↔
      gateway.find? resource.kind resource.name = some resource := by
  rcases resource with vrf | bridge | port <;>
    simp [resources, find?, Resource.kind, Resource.name, Store.mem_iff_get?, Named.name]

theorem mem_entries_iff :
    resource ∈ gateway.entries kind ↔ resource ∈ gateway.resources ∧ resource.kind = kind := by
  rcases resource with vrf | bridge | port <;> cases kind <;>
    simp [entries, resources, Resource.kind]

theorem pairwise_entries (gateway : Gateway) (kind : Kind) :
    (gateway.entries kind).Pairwise (·.name < ·.name) := by
  cases kind with
  | vrf => exact List.pairwise_map.mpr gateway.vrfs.sorted
  | bridge => exact List.pairwise_map.mpr gateway.bridges.sorted
  | port => exact List.pairwise_map.mpr gateway.ports.sorted

theorem mem_resources_of_find? (h : gateway.find? kind name = some resource) :
    resource ∈ gateway.resources := by
  obtain ⟨rfl, rfl⟩ := kind_name_of_find? h
  exact mem_resources_iff.mpr h

theorem mem_resources_put {stored : Resource} :
    stored ∈ (gateway.put resource).resources ↔
      stored = resource ∨ stored ∈ gateway.resources ∧
        ¬ (resource.kind = stored.kind ∧ resource.name = stored.name) := by
  rw [mem_resources_iff, mem_resources_iff, find?_put]
  split_ifs with hsame
  · simp [hsame, eq_comm]
  · have hne : stored ≠ resource := by
      rintro rfl
      exact hsame ⟨rfl, rfl⟩
    simp [hsame, hne]

theorem mem_resources_drop :
    resource ∈ (gateway.drop kind name).resources ↔
      resource ∈ gateway.resources ∧ ¬ (kind = resource.kind ∧ name = resource.name) := by
  rw [mem_resources_iff, mem_resources_iff, find?_drop]
  split_ifs with hsame <;> simp [hsame]

theorem eq_of_kind_name {other : Resource} (h : resource ∈ gateway.resources)
    (hother : other ∈ gateway.resources) (hkind : resource.kind = other.kind)
    (hname : resource.name = other.name) : resource = other := by
  rw [mem_resources_iff, hkind, hname] at h
  rw [mem_resources_iff] at hother
  exact Option.some.inj (h.symm.trans hother)

theorem mem_resources_drop_iff_ne {other : Resource} (h : resource ∈ gateway.resources) :
    other ∈ (gateway.drop resource.kind resource.name).resources ↔
      other ∈ gateway.resources ∧ other ≠ resource := by
  rw [mem_resources_drop]
  refine and_congr_right fun hother => not_congr ⟨fun hsame => ?_, ?_⟩
  · exact (eq_of_kind_name h hother hsame.1 hsame.2).symm
  · rintro rfl
    exact ⟨rfl, rfl⟩

/-- **A resource under a fresh name joins the others.** -/
theorem resources_put (h : gateway.find? resource.kind resource.name = none) :
    (gateway.put resource).resources.Perm (resource :: gateway.resources) := by
  rcases resource with vrf | bridge | port <;>
    simp only [find?, Resource.kind, Resource.name, Option.map_eq_none_iff] at h
  · exact (((Store.perm_insert h).map Resource.vrf).append_right _).append_right _
  · have hmid := ((Store.perm_insert h).map Resource.bridge)
    exact ((hmid.append_left _).trans List.perm_middle).append_right _
  · have hlast := ((Store.perm_insert h).map Resource.port)
    exact (hlast.append_left _).trans List.perm_middle

/-- **A dropped resource leaves the others behind.** -/
theorem resources_drop (h : gateway.find? kind name = some resource) :
    gateway.resources.Perm (resource :: (gateway.drop kind name).resources) := by
  cases kind <;> simp only [find?, Option.map_eq_some_iff] at h <;>
    obtain ⟨entry, hentry, rfl⟩ := h
  · exact (((Store.perm_erase hentry).map Resource.vrf).append_right _).append_right _
  · have hmid := ((Store.perm_erase hentry).map Resource.bridge)
    exact ((hmid.append_left _).trans List.perm_middle).append_right _
  · have hlast := ((Store.perm_erase hentry).map Resource.port)
    exact (hlast.append_left _).trans List.perm_middle

end Gateway

end EvpnGateway
