import EvpnGateway.Proofs.Journal
import EvpnGateway.Proofs.Ownership
import EvpnGateway.Proofs.Segments
/-!
# Devices where calls fail

Over a kernel whose calls fail now and then a device still has one owner, until a deletion fails
half-way: the owner stays in its store, the name of the deleted link is free, and another resource
may create a link of that name. From then on either owner strips the other.

* `Entry.Severs`: requests that failed after they had deleted a link;
* **`Gateway.deletes_of_exchange`**, **`Gateway.resources_step`**: which links a request deletes,
  and which it creates;
* `Sole`: a device with one owner at most, live as long as it has one; **`Sole.step`**: only
  failures half-way change that;
* `Testbed`: gateways over kernels with any faults, in any order of steps;
* **`Testbed.sole`**, `Testbed.nodup_devices`; **`Testbed.stripped_after_failure`**: what a deletion
  takes from others;
* `Halfway`, `Testbed.strips_other_blue`: a deletion that is repeated strips a bridge.
-/

namespace EvpnGateway

/-- The request failed after it had deleted a link. -/
def Entry.Severs (device : String) (entry : Entry) : Prop :=
  (∃ error, entry.answer = .error error) ∧ ∃ exchange ∈ entry.exchanges, exchange.Deletes device

theorem Call.takesDown_of_removed {call : Call} {device : String}
    (h : call.removed? = some device) : call.takesDown := by
  cases call <;> first | rfl | exact nomatch h

theorem Call.not_adds_of_takesDown {call : Call} (h : call.takesDown) : call.added? = none := by
  cases call <;> first | rfl | exact absurd h Bool.false_ne_true

/-! ## Links that requests delete and create -/

namespace Gateway

variable {σ : Type} {gateway : Gateway} {draw : Draw} {request : Request} {backends : Backends σ}
  {state : σ} {simulation : Simulation} {device : String}

/-- **Only a request to delete a stored resource deletes links**, and only devices of it. -/
theorem deletes_of_exchange {exchange : Exchange Call Call.Reply}
    (h : exchange ∈ gateway.exchanges backends draw request state)
    (hdeletes : exchange.Deletes device) :
    ∃ deletion, ∃ resource ∈ gateway.resources,
      gateway.intent draw request = .delete resource.kind deletion ∧
      deletion.name = resource.name ∧ device ∈ resource.devices ∧
      gateway.decide draw (gateway.intent draw request) =
        .ok (.perform (resource.teardown gateway.settings) .deleted
          (gateway.drop resource.kind resource.name)) := by
  obtain ⟨-, hremoved⟩ := hdeletes
  obtain ⟨kind, deletion, resource, hdelete, hfound, hdecision⟩ :=
    takesDown_of_exchange h (Call.takesDown_of_removed hremoved)
  obtain ⟨rfl, hname⟩ := kind_name_of_find? hfound
  have hcall : exchange.question ∈ resource.teardown gateway.settings := by
    rw [exchanges_undertaken backends state hdecision] at h
    exact (asks_conclude fun _ hcall => hcall).of_mem_dialogue h
  have hdevice : device ∈ (resource.teardown gateway.settings).filterMap Call.removed? :=
    List.mem_filterMap.mpr ⟨_, hcall, hremoved⟩
  rw [resource.removed_of_teardown, List.mem_reverse] at hdevice
  rw [← hname] at hdecision
  exact ⟨deletion, resource, mem_resources_of_find? hfound, hdelete, hname.symm, hdevice, hdecision⟩

theorem live_of_step (hlive : simulation.Live device)
    (hkept : ∀ exchange ∈ gateway.exchanges Simulation.backends draw request simulation,
      ¬ exchange.Deletes device) :
    (gateway.step Simulation.backends draw request simulation).backends.Live device :=
  Simulation.live_of_kept hlive hkept

theorem live_of_deletes {exchange : Exchange Call Call.Reply}
    (h : exchange ∈ gateway.exchanges Simulation.backends draw request simulation)
    (hdeletes : exchange.Deletes device) : simulation.Live device := by
  obtain ⟨deletion, resource, -, -, -, -, hdecision⟩ := deletes_of_exchange h hdeletes
  rw [exchanges_undertaken _ _ hdecision] at h
  refine (Simulation.gone_of_deletes (asks_conclude fun call hcall => ?_) h hdeletes).1
  exact Call.not_adds_of_takesDown (resource.takesDown_of_teardown gateway.settings call hcall)

/-- **The devices of a new resource are distinct and live**, and none of them was live before. -/
theorem live_of_created {new : Resource} {calls : List Call}
    (hcreate : gateway.intent draw request = .create (.ok ()) new)
    (hfresh : gateway.find? new.kind new.name = none) (hcalls : gateway.realization new = .ok calls)
    (hnew : (gateway.step Simulation.backends draw request simulation).gateway.find? new.kind
      new.name = some new) :
    new.devices.Nodup ∧ ∀ device ∈ new.devices, ¬ simulation.Live device ∧
      (gateway.step Simulation.backends draw request simulation).backends.Live device := by
  have hdecision : gateway.decide draw (gateway.intent draw request) =
      .ok (.perform calls new.answer (gateway.put new)) := by
    rw [hcreate, decide_create_fresh hfresh, hcalls]
    rfl
  have hkeep : ∀ call ∈ calls, call.removed? = none := fun call hcall =>
    Call.not_removes_of_setsUp (Resource.setsUp_of_realization hcalls call hcall)
  rw [step_undertaken _ simulation hdecision] at hnew ⊢
  rcases (commits_conclude gateway new.answer (gateway.put new) calls).run_cases
      Simulation.backends simulation with ⟨hresult, -⟩ | ⟨_, _, _, hresult, -, -⟩
  · have hlinks := Simulation.run_setUp hkeep hresult
    rwa [Resource.added_of_realization hcalls] at hlinks
  · simp only [Undertaking.plan, hresult, hfresh, reduceCtorEq] at hnew

/-- **A request brings at most one new resource**, and with it only links that were not there. -/
theorem resources_step (sound : gateway.Sound) (draw : Draw) (request : Request)
    (simulation : Simulation) :
    let served := gateway.step Simulation.backends draw request simulation
    served.gateway.resources ⊆ gateway.resources ∨
      ∃ new, (∀ resource ∈ served.gateway.resources,
          resource = new ∨ resource ∈ gateway.resources) ∧
        new.devices.Nodup ∧ ∀ device ∈ new.devices,
          ¬ simulation.Live device ∧ served.backends.Live device := by
  intro served
  have hchange := step_change sound Simulation.backends draw request simulation
  generalize hafter : served.gateway = after at hchange ⊢
  cases hchange with
  | keep => exact .inl (List.Subset.refl _)
  | issue tokens => exact .inl (List.Subset.refl _)
  | remove delete named stored =>
    exact .inl fun resource hmem => (mem_resources_drop.mp hmem).1
  | @add new calls create fresh realizable =>
    have hstored : served.gateway.find? new.kind new.name = some new := by
      rw [hafter, find?_put, if_pos ⟨rfl, rfl⟩]
    refine .inr ⟨new, fun resource hmem => ?_, live_of_created create fresh realizable hstored⟩
    exact (mem_resources_put.mp hmem).imp_right And.left

end Gateway

/-! ## Devices with one owner -/

/-- A device that one stored resource has at most, live as long as one has it. -/
structure Sole (gateway : Gateway) (simulation : Simulation) (device : String) : Prop where
  live : ∀ resource ∈ gateway.resources, device ∈ resource.devices → simulation.Live device
  unique : ∀ one ∈ gateway.resources, ∀ other ∈ gateway.resources,
    device ∈ one.devices → device ∈ other.devices → one = other

namespace Sole

variable {gateway after : Gateway} {simulation next : Simulation} {device : String} {draw : Draw}
  {request : Request}

theorem mono (h : Sole gateway simulation device) (howners : after.resources ⊆ gateway.resources)
    (hlive : simulation.Live device → next.Live device) : Sole after next device :=
  ⟨fun resource hmem hdevice => hlive (h.live resource (howners hmem) hdevice),
    fun one hone other hother => h.unique one (howners hone) other (howners hother)⟩

/-- **A device keeps its one owner** unless a request fails after it had deleted the link. -/
theorem step (h : Sole gateway simulation device) (sound : gateway.Sound)
    (hkept : ¬ (gateway.record Simulation.backends draw request simulation).Severs device) :
    Sole (gateway.step Simulation.backends draw request simulation).gateway
      (gateway.step Simulation.backends draw request simulation).backends device := by
  by_cases hdeleted : ∃ exchange ∈ gateway.exchanges Simulation.backends draw request simulation,
      exchange.Deletes device
  · -- the request did not fail, so the only owner of the device is gone with it
    obtain ⟨exchange, hexchange, hdeletes⟩ := hdeleted
    obtain ⟨deletion, resource, hmem, -, -, hdevice, hdecision⟩ :=
      Gateway.deletes_of_exchange hexchange hdeletes
    cases hanswer : (gateway.step Simulation.backends draw request simulation).answer with
    | error error => exact absurd ⟨⟨error, hanswer⟩, exchange, hexchange, hdeletes⟩ hkept
    | ok answer =>
      obtain ⟨undertaking, hdecision', -, hafter⟩ := Gateway.decide_of_answer hanswer
      obtain rfl := Except.ok.inj (hdecision.symm.trans hdecision')
      have hnone : ∀ other ∈ (gateway.step Simulation.backends draw request
          simulation).gateway.resources, device ∉ other.devices := by
        intro other hother hdevice'
        rw [hafter] at hother
        obtain ⟨hother, hne⟩ := (Gateway.mem_resources_drop_iff_ne hmem).mp hother
        exact hne (h.unique other hother resource hmem hdevice' hdevice)
      exact ⟨fun other hother hdevice' => absurd hdevice' (hnone other hother),
        fun one hone _ _ hdevice' => absurd hdevice' (hnone one hone)⟩
  · -- the link stays, so only a new owner is to be looked at
    have hlive : simulation.Live device →
        (gateway.step Simulation.backends draw request simulation).backends.Live device :=
      fun hlive => Gateway.live_of_step hlive fun exchange hexchange hdeletes =>
        hdeleted ⟨exchange, hexchange, hdeletes⟩
    rcases Gateway.resources_step sound draw request simulation with
      hsubset | ⟨new, hresources, -, hdevices⟩
    · exact h.mono hsubset hlive
    by_cases hdevice : device ∈ new.devices
    · -- the link was not there before, so nobody had the device
      obtain ⟨hnew, hthere⟩ := hdevices device hdevice
      have howner : ∀ resource ∈ (gateway.step Simulation.backends draw request
          simulation).gateway.resources, device ∈ resource.devices → resource = new := by
        intro resource hmem howned
        rcases hresources resource hmem with hsame | hold
        · exact hsame
        · exact absurd (h.live resource hold howned) hnew
      exact ⟨fun _ _ _ => hthere, fun one hone other hother hone' hother' =>
        (howner one hone hone').trans (howner other hother hother').symm⟩
    · have hold : ∀ resource ∈ (gateway.step Simulation.backends draw request
          simulation).gateway.resources, device ∈ resource.devices →
            resource ∈ gateway.resources := by
        intro resource hmem howned
        rcases hresources resource hmem with rfl | hold
        · exact absurd howned hdevice
        · exact hold
      refine ⟨fun resource hmem howned => ?_, fun one hone other hother hone' hother' => ?_⟩
      · exact hlive (h.live resource (hold resource hmem howned) howned)
      · exact h.unique one (hold one hone hone') other (hold other hother hother') hone' hother'

end Sole

/-! ## Kernels that fail -/

/-- A gateway over a simulated kernel after any steps in any order, with an entry for every request:
requests are served, the tenant bridge is seen to, calls are made to fail or to pass again, and
links are put there by others or, where they are `removed`, taken away. -/
inductive Testbed (settings : Settings) :
    Gateway → Simulation → List Entry → (removed : List String) → Prop where
  | start (simulation : Simulation) : Testbed settings { settings } simulation [] []
  | serve {gateway : Gateway} {simulation : Simulation} {entries : List Entry}
      {removed : List String} (testbed : Testbed settings gateway simulation entries removed)
      (draw : Draw) (request : Request) :
      Testbed settings (gateway.step Simulation.backends draw request simulation).gateway
        (gateway.step Simulation.backends draw request simulation).backends
        (entries ++ [gateway.record Simulation.backends draw request simulation]) removed
  | tenantBridge {gateway : Gateway} {simulation : Simulation} {entries : List Entry}
      {removed : List String} (testbed : Testbed settings gateway simulation entries removed)
      (name : String) :
      Testbed settings gateway
        ((ensureTenantBridge name).plan.run Simulation.backends simulation).state entries removed
  | inject {gateway : Gateway} {simulation : Simulation} {entries : List Entry}
      {removed : List String} (testbed : Testbed settings gateway simulation entries removed)
      (faults : List Fault) (routingDown : Bool) :
      Testbed settings gateway { simulation with faults, routingDown } entries removed
  | addLink {gateway : Gateway} {simulation : Simulation} {entries : List Entry}
      {removed : List String} (testbed : Testbed settings gateway simulation entries removed)
      (link : LiveLink) : Testbed settings gateway (simulation.put link) entries removed
  | removeLink {gateway : Gateway} {simulation : Simulation} {entries : List Entry}
      {removed : List String} (testbed : Testbed settings gateway simulation entries removed)
      (name : String) : Testbed settings gateway (simulation.drop name) entries (name :: removed)

namespace Testbed

variable {settings : Settings} {gateway : Gateway} {simulation : Simulation} {entries : List Entry}
  {removed : List String} {device : String}

theorem journal (h : Testbed settings gateway simulation entries removed) :
    Journal settings gateway entries := by
  induction h with
  | start simulation => exact .start
  | serve testbed draw request ih => exact .serve ih Simulation.backends draw request _
  | tenantBridge testbed name ih => exact ih
  | inject testbed faults routingDown ih => exact ih
  | addLink testbed link ih => exact ih
  | removeLink testbed name ih => exact ih

theorem reachable (h : Testbed settings gateway simulation entries removed) :
    gateway.Reachable settings := h.journal.reachable

theorem nodup_devices (h : Testbed settings gateway simulation entries removed) :
    ∀ resource ∈ gateway.resources, resource.devices.Nodup := by
  induction h with
  | start simulation => exact fun _ hmem => absurd hmem List.not_mem_nil
  | tenantBridge testbed name ih => exact ih
  | inject testbed faults routingDown ih => exact ih
  | addLink testbed link ih => exact ih
  | removeLink testbed name ih => exact ih
  | @serve gateway simulation entries removed testbed draw request ih =>
    intro resource hmem
    rcases Gateway.resources_step testbed.reachable.sound draw request simulation with
      hsubset | ⟨new, hresources, hnodup, -⟩
    · exact ih resource (hsubset hmem)
    · rcases hresources resource hmem with rfl | hold
      · exact hnodup
      · exact ih resource hold

/-- **A device has one owner at most, and is live while it has one**, unless the link was removed
from outside or a request failed after it had deleted it. -/
theorem sole (h : Testbed settings gateway simulation entries removed) (houtside : device ∉ removed)
    (hkept : ∀ entry ∈ entries, ¬ entry.Severs device) : Sole gateway simulation device := by
  induction h with
  | start simulation =>
    exact ⟨fun _ hmem => absurd hmem List.not_mem_nil, fun _ hmem => absurd hmem List.not_mem_nil⟩
  | serve testbed draw request ih =>
    have hbefore := ih houtside fun entry hentry => hkept entry (List.mem_append_left _ hentry)
    exact hbefore.step testbed.reachable.sound
      (hkept _ (List.mem_append_right _ (List.mem_singleton_self _)))
  | tenantBridge testbed name ih =>
    exact (ih houtside hkept).mono (List.Subset.refl _)
      (Simulation.live_of_asks (asks_ensureTenantBridge name))
  | inject testbed faults routingDown ih =>
    exact (ih houtside hkept).mono (List.Subset.refl _) id
  | addLink testbed link ih =>
    exact (ih houtside hkept).mono (List.Subset.refl _) fun hlive => hlive.put link
  | @removeLink gateway simulation entries removed testbed name ih =>
    have hne : name ≠ device := fun hsame => houtside (hsame ▸ List.mem_cons_self)
    have hbefore := ih (fun hmem => houtside (List.mem_cons_of_mem name hmem)) hkept
    refine hbefore.mono (List.Subset.refl _) fun hlive => ?_
    unfold Simulation.Live
    rw [Simulation.link?_drop, if_neg hne]
    exact hlive

end Testbed

/-! ## Shared devices -/

theorem Vni.vxlanName_injective : Function.Injective Vni.vxlanName := by
  rintro ⟨one, _⟩ ⟨other, _⟩ hname
  have hrepr : one.repr = other.repr := (String.append_right_inj "vni").mp hname
  have hdigits : Nat.toDigits 10 one = Nat.toDigits 10 other := by
    rw [← Nat.toList_repr, ← Nat.toList_repr, hrepr]
  have hnumber := congrArg (Nat.ofDigitChars 10 · 0) hdigits
  simp only [Nat.ofDigitChars_ten_toDigits] at hnumber
  subst hnumber
  rfl

/-- Of two resources of one kind only VRFs can share a device: segments belong to one bridge, and
the name of a port is in its id. -/
theorem Gateway.Reachable.kind_of_shared {settings : Settings} {gateway : Gateway}
    {one other : Resource} {device : String} (h : gateway.Reachable settings)
    (hone : one ∈ gateway.resources) (hother : other ∈ gateway.resources) (hne : one ≠ other)
    (hdevice : device ∈ one.devices) (hdevice' : device ∈ other.devices)
    (hkind : one.kind = other.kind) : one.kind = .vrf := by
  have hname : one.name ≠ other.name := fun hsame => hne (eq_of_kind_name hone hother hkind hsame)
  rcases one with v | b | p <;> rcases other with v' | b' | p' <;>
    simp only [Resource.kind, reduceCtorEq] at hkind
  · rfl
  · -- both VXLAN devices are named after one VNI
    exfalso
    refine h.segmented b b' hone hother hname (LogicalBridgeSpec.overlaps_iff.mpr (.inr ?_))
    simp only [Resource.devices] at hdevice hdevice'
    cases hvni : b.spec.vni with
    | none => simp [hvni] at hdevice
    | some vni =>
      cases hvni' : b'.spec.vni with
      | none => simp [hvni'] at hdevice'
      | some vni' =>
        simp only [hvni, hvni', List.mem_singleton] at hdevice hdevice'
        obtain rfl := Vni.vxlanName_injective (hdevice.symm.trans hdevice')
        exact ⟨vni, rfl, rfl⟩
  · -- the names of both ports are made of one id
    exfalso
    have hp := (checkName_eq_ok_iff.mp (h.sound.wellNamed _ hone)).fullName_shortId
    have hp' := (checkName_eq_ok_iff.mp (h.sound.wellNamed _ hother)).fullName_shortId
    simp only [Resource.devices, List.mem_singleton] at hdevice hdevice'
    have hsame : shortId p.name = shortId p'.name := hdevice.symm.trans hdevice'
    simp only [Resource.name, Resource.kind] at hp hp' hname
    exact hname (by rw [← hp, hsame, hp'])

/-- A request that failed after it had deleted a link was to delete an owner of the link. -/
theorem Journal.owner_of_severs {settings : Settings} {gateway : Gateway} {entries : List Entry}
    {entry : Entry} {device : String} (h : Journal settings gateway entries)
    (hmem : entry ∈ entries) (hsevers : entry.Severs device) :
    ∃ deletion, ∃ owner ∈ entry.gateway.resources, entry.intent = .delete owner.kind deletion ∧
      deletion.name = owner.name ∧ device ∈ owner.devices := by
  obtain ⟨σ, backends, state, -, hrecord⟩ := h.record_of_mem hmem
  obtain ⟨-, exchange, hexchange, hdeletes⟩ := hsevers
  rw [hrecord] at hexchange
  obtain ⟨deletion, owner, howner, hdelete, hname, hdevice, -⟩ :=
    Gateway.deletes_of_exchange hexchange hdeletes
  exact ⟨deletion, owner, howner, hdelete, hname, hdevice⟩

namespace Testbed

variable {settings : Settings} {gateway : Gateway} {simulation : Simulation} {entries : List Entry}
  {removed : List String}

/-- **Only after a failure half-way does a deletion strip others.** A link that a request deletes
was live and is a device of the stored resource that the request is to delete. If it is a device of
another stored resource too, then it was removed from outside before, or an earlier request to
delete an owner of it deleted the link and failed then. Nor are the two of one kind, unless they are
VRFs. -/
theorem stripped_after_failure (h : Testbed settings gateway simulation entries removed)
    (draw : Draw) (request : Request) :
    ∀ exchange ∈ gateway.exchanges Simulation.backends draw request simulation,
      ∀ device, exchange.Deletes device →
      simulation.Live device ∧ ∃ deletion, ∃ resource ∈ gateway.resources,
        gateway.intent draw request = .delete resource.kind deletion ∧
        deletion.name = resource.name ∧ device ∈ resource.devices ∧
        ∀ other ∈ gateway.resources, other ≠ resource → device ∈ other.devices →
          (other.kind = resource.kind → other.kind = .vrf) ∧
          (device ∈ removed ∨ ∃ earlier ∈ entries, earlier.Severs device ∧
            ∃ deletion, ∃ owner ∈ earlier.gateway.resources,
              earlier.intent = .delete owner.kind deletion ∧ deletion.name = owner.name ∧
              device ∈ owner.devices) := by
  intro exchange hexchange device hdeletes
  obtain ⟨deletion, resource, hmem, hdelete, hname, hdevice, -⟩ :=
    Gateway.deletes_of_exchange hexchange hdeletes
  refine ⟨Gateway.live_of_deletes hexchange hdeletes, deletion, resource, hmem, hdelete, hname,
    hdevice, fun other hother hne hdevice' =>
    ⟨h.reachable.kind_of_shared hother hmem hne hdevice' hdevice, ?_⟩⟩
  by_cases houtside : device ∈ removed
  · exact .inl houtside
  · right
    by_contra hnone
    have hkept : ∀ entry ∈ entries, ¬ entry.Severs device := fun entry hentry hsevers =>
      hnone ⟨entry, hentry, hsevers, h.journal.owner_of_severs hentry hsevers⟩
    exact hne ((h.sole houtside hkept).unique other hother resource hmem hdevice' hdevice)

end Testbed

/-! ## A deletion that is repeated -/

namespace Halfway

/-- Nothing is drawn. -/
def draw : Draw := ⟨⟨0, 0⟩, .zero, ⟨0, 0⟩⟩

/-- A VRF that is stretched over a segment. -/
def createVrf : Request := .createVrf "blue" { spec := { vni := some ⟨100, by decide⟩ } }

/-- A bridge over the same segment. -/
def red1 : LogicalBridgeSpec := { vni := some ⟨100, by decide⟩, vlan := ⟨10, by decide, by decide⟩ }

/-- The VRF is to be deleted. -/
def deleteVrf : Request := .deleteVrf { name := "vrfs/blue" }

/-- The VRF is created. -/
def one : Gateway.Served Simulation := ({} : Gateway).step Simulation.backends draw createVrf {}

/-- The kernel will not delete the second link of the VRF. -/
def faulty : Simulation :=
  { one.backends with faults := [{ call := "link_del", device := some "br100" }] }

/-- The VRF stays, without its VXLAN device. -/
def two : Gateway.Served Simulation := one.gateway.step Simulation.backends draw deleteVrf faulty

/-- The kernel deletes links again. -/
def mended : Simulation := two.backends.cleared

/-- A bridge is created and has a VXLAN device of that name. -/
def three : Gateway.Served Simulation :=
  two.gateway.step Simulation.backends draw (.createBridge "red1" { spec := red1 }) mended

/-- The requests so far. -/
def entries : List Entry :=
  [({} : Gateway).record Simulation.backends draw createVrf {},
    one.gateway.record Simulation.backends draw deleteVrf faulty,
    two.gateway.record Simulation.backends draw (.createBridge "red1" { spec := red1 }) mended]

theorem testbed : Testbed {} three.gateway three.backends entries [] :=
  .serve (.inject (.serve (.inject (.serve (.start {}) draw createVrf) _ _) draw deleteVrf) _ _)
    draw (.createBridge "red1" { spec := red1 })

end Halfway

open Halfway in
/-- The deletion is repeated and deletes a device that the bridge has too. -/
theorem Testbed.stripped_after_failure_blue :
    (∃ exchange ∈ three.gateway.exchanges Simulation.backends draw deleteVrf three.backends,
      exchange.Deletes "vni100") ∧
    .bridge (Gateway.newBridge draw "red1" red1) ∈ three.gateway.resources ∧
    ∃ earlier ∈ entries, earlier.Severs "vni100" := by
  have hdeletes : ∃ exchange ∈ three.gateway.exchanges Simulation.backends draw deleteVrf
      three.backends, exchange.Deletes "vni100" := by decide +kernel
  have hmem : .bridge (Gateway.newBridge draw "red1" red1) ∈ three.gateway.resources := by
    decide +kernel
  refine ⟨hdeletes, hmem, ?_⟩
  obtain ⟨exchange, hexchange, hdeletes⟩ := hdeletes
  obtain ⟨-, deletion, resource, -, hdelete, -, -, hshared⟩ :=
    testbed.stripped_after_failure draw deleteVrf exchange hexchange "vni100" hdeletes
  have hne : .bridge (Gateway.newBridge draw "red1" red1) ≠ resource := by
    rintro rfl
    exact nomatch hdelete
  obtain ⟨-, houtside | ⟨earlier, hearlier, hsevers, -⟩⟩ :=
    hshared _ hmem hne (by decide +kernel)
  · exact absurd houtside List.not_mem_nil
  · exact ⟨earlier, hearlier, hsevers⟩

open Halfway in
/-- **A deletion that is repeated strips another resource.** The bridge was created with all of its
calls, nobody else removed a link, and yet its device is gone when the VRF is. -/
theorem Testbed.strips_other_blue :
    Testbed {} three.gateway three.backends entries [] ∧
    three.answer = .ok (.bridge (Gateway.newBridge draw "red1" red1)) ∧
    (∃ exchange ∈ two.gateway.exchanges Simulation.backends draw
      (.createBridge "red1" { spec := red1 }) mended, exchange.Creates "vni100") ∧
    "vni100" ∈ (Resource.bridge (Gateway.newBridge draw "red1" red1)).devices ∧
    three.backends.Live "vni100" ∧
    let four := three.gateway.step Simulation.backends draw deleteVrf three.backends
    four.answer = .ok .deleted ∧ ¬ four.backends.Live "vni100" ∧
      .bridge (Gateway.newBridge draw "red1" red1) ∈ four.gateway.resources ∧
      (four.gateway.step Simulation.backends draw (.getBridge "bridges/red1")
        four.backends).answer = .error (.notFound "vni100") :=
  ⟨testbed, by decide +kernel⟩

end EvpnGateway
