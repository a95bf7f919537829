import EvpnGateway.Proofs.Exchanges
import EvpnGateway.Proofs.Names
/-!
# Reachable gateways

Whatever the backends answer, a request changes a gateway in one of few ways.

* `decide_create`, `decide_update`, `decide_get`, `decide_delete`, `decide_list`: what is
  undertaken;
* `Sound`: stored resources have well-formed names and the status that they are shown with;
* `Change`, **`step_change`**: a request keeps the stores, adds one new resource or removes one;
* `Reachable`, **`Reachable.invariant`**: what changes preserve holds in every reachable gateway.
-/

namespace EvpnGateway

/-! ## Resources that updates leave alone -/

theorem eq_of_checkVrfUnchanged {stored requested : VrfSpec}
    (h : checkVrfUnchanged stored requested = .ok ()) : stored = requested := by
  unfold checkVrfUnchanged at h
  by_cases hvni : stored.vni = requested.vni
  · by_cases hloopback : stored.loopback = requested.loopback
    · by_cases hvtep : stored.vtep = requested.vtep
      · cases stored
        cases requested
        simp_all
      · simp [hvni, hloopback, hvtep, refuse] at h
    · simp [hvni, hloopback, refuse, bind, Except.bind] at h
  · simp [hvni, refuse, bind, Except.bind] at h

theorem eq_of_checkSegmentUnchanged {stored requested : LogicalBridgeSpec}
    (h : checkSegmentUnchanged stored requested = .ok ()) : stored = requested := by
  unfold checkSegmentUnchanged at h
  split_ifs at h with hchanged
  · exact (refuse_ne_ok _ _ h).elim
  rw [not_or, not_not, not_not] at hchanged
  cases stored
  cases requested
  simp_all

theorem Resource.revised_of_checkUnchanged {stored requested : Resource}
    (h : stored.checkUnchanged requested = .ok ()) : stored.revised requested = stored := by
  rcases stored with v | b | p <;> rcases requested with v' | b' | p' <;> try rfl
  · have hspec : v.spec = v'.spec := eq_of_checkVrfUnchanged h
    simp only [revised, Vrf.revision, ← hspec]
  · have hspec : b.spec = b'.spec := eq_of_checkSegmentUnchanged h
    simp only [revised, LogicalBridge.revision, ← hspec]

namespace Gateway

variable {settings : Settings} {gateway after : Gateway} {draw : Draw} {request : Request}
  {undertaking : Undertaking} {resource new requested : Resource} {kind : Kind} {name : String}
  {check : Check} {deletion : DeleteRequest} {listing : ListRequest}

/-! ## What is undertaken -/

theorem decide_create (h : gateway.decide draw (.create check new) = .ok undertaking) :
    check = .ok () ∧
      ((∃ existing, gateway.find? new.kind new.name = some existing ∧
          undertaking = .perform [] existing.answer gateway) ∨
        gateway.find? new.kind new.name = none ∧
          ∃ calls, gateway.realization new = .ok calls ∧
            undertaking = .perform calls new.answer (gateway.put new)) := by
  obtain ⟨_, hcheck, hestablish⟩ := ok_of_bind h
  refine ⟨hcheck, ?_⟩
  unfold establish at hestablish
  cases hfound : gateway.find? new.kind new.name with
  | some existing =>
    rw [hfound] at hestablish
    exact .inl ⟨existing, rfl, (Except.ok.inj hestablish).symm⟩
  | none =>
    rw [hfound] at hestablish
    obtain ⟨calls, hcalls, rfl⟩ := ok_of_map hestablish
    exact .inr ⟨rfl, calls, hcalls, rfl⟩

theorem decide_create_stored (h : gateway.find? new.kind new.name = some resource) :
    gateway.decide draw (.create (.ok ()) new) = .ok (.perform [] resource.answer gateway) := by
  simp only [decide, Except.bind, establish, h]

theorem decide_create_fresh (h : gateway.find? new.kind new.name = none) :
    gateway.decide draw (.create (.ok ()) new) =
      (gateway.realization new).map (.perform · new.answer (gateway.put new)) := by
  simp only [decide, Except.bind, establish, h]

theorem stored_eq_ok (h : gateway.stored kind name = .ok resource) :
    checkName kind.collection name = .ok () ∧ gateway.find? kind name = some resource := by
  unfold stored at h
  cases hcheck : checkName kind.collection name with
  | error error => simp [hcheck] at h
  | ok =>
    cases hfound : gateway.find? kind name with
    | none => simp [hcheck, hfound] at h
    | some found =>
      rw [hcheck, hfound] at h
      exact ⟨rfl, congrArg some (Except.ok.inj h)⟩

theorem decide_update (h : gateway.decide draw (.update requested) = .ok undertaking) :
    ∃ existing, gateway.find? requested.kind requested.name = some existing ∧
      undertaking = gateway.renew existing.renewal? (existing.reported gateway.settings) := by
  obtain ⟨existing, hstored, hrevise⟩ := ok_of_bind h
  obtain ⟨_, hunchanged, rfl⟩ := ok_of_map hrevise
  rw [Resource.revised_of_checkUnchanged hunchanged]
  exact ⟨existing, (stored_eq_ok hstored).2, rfl⟩

@[simp] theorem answer_renew (device? : Option String) :
    (gateway.renew device? resource).answer = resource.answer := by cases device? <;> rfl

@[simp] theorem after_renew (device? : Option String) :
    (gateway.renew device? resource).after = gateway.put resource := by cases device? <;> rfl

theorem decide_get (h : gateway.decide draw (.get kind name) = .ok undertaking) :
    ∃ existing, gateway.find? kind name = some existing ∧
      undertaking =
        .perform existing.probe (existing.reported gateway.settings).answer gateway := by
  obtain ⟨existing, hstored, rfl⟩ := ok_of_map h
  exact ⟨existing, (stored_eq_ok hstored).2, rfl⟩

theorem decide_delete (h : gateway.decide draw (.delete kind deletion) = .ok undertaking) :
    (∃ existing, gateway.find? kind deletion.name = some existing ∧
        undertaking = .perform (existing.teardown gateway.settings) .deleted
          (gateway.drop kind deletion.name)) ∨
      gateway.find? kind deletion.name = none ∧ undertaking = .perform [] .deleted gateway := by
  obtain ⟨_, -, hdismiss⟩ := ok_of_bind h
  unfold dismiss at hdismiss
  cases hfound : gateway.find? kind deletion.name with
  | some existing =>
    rw [hfound] at hdismiss
    exact .inl ⟨existing, rfl, (Except.ok.inj hdismiss).symm⟩
  | none =>
    simp only [hfound] at hdismiss
    split_ifs at hdismiss
    exact .inr ⟨rfl, (Except.ok.inj hdismiss).symm⟩

theorem paged_listing (gateway : Gateway) (draw : Draw) (listing : ListRequest) (kind : Kind) :
    (gateway.paged draw listing kind).map (Prod.map Answer.listing? id) =
      (gateway.tokens.paginate draw.token (gateway.entries kind) listing).map
        (Prod.map some id) := by
  cases kind <;> simp only [paged, entries, PageTokens.paginate_map] <;>
    cases gateway.tokens.paginate draw.token _ listing <;> rfl

theorem decide_list (h : gateway.decide draw (.list kind listing) = .ok undertaking) :
    ∃ answer page tokens, undertaking = .perform [] answer { gateway with tokens } ∧
      answer.listing? = some page ∧
      gateway.tokens.paginate draw.token (gateway.entries kind) listing = .ok (page, tokens) := by
  obtain ⟨⟨answer, tokens⟩, hpaged, rfl⟩ := ok_of_map h
  have hlisting := paged_listing gateway draw listing kind
  rw [hpaged] at hlisting
  obtain ⟨⟨page, tokens'⟩, hpage, heq⟩ := ok_of_map hlisting.symm
  obtain ⟨hpresent, rfl⟩ := Prod.mk.inj heq
  exact ⟨answer, page, tokens', rfl, hpresent.symm, hpage⟩

theorem items_subset_resources {answer : Answer} {page : Listing Resource} {tokens : PageTokens}
    (hanswer : answer.listing? = some page)
    (hpage : gateway.tokens.paginate draw.token (gateway.entries kind) listing =
      .ok (page, tokens)) : answer.items ⊆ gateway.resources := by
  rw [Answer.items_of_listing? hanswer]
  exact fun item hmem => (mem_entries_iff.mp (PageTokens.items_paginate hpage hmem)).1

/-! ## Sound gateways -/

/-- A gateway whose resources have names that requests may use and the status that they are shown
with. -/
structure Sound (gateway : Gateway) : Prop where
  wellNamed : ∀ resource ∈ gateway.resources,
    checkName resource.kind.collection resource.name = .ok ()
  reported : ∀ resource ∈ gateway.resources, resource.reported gateway.settings = resource

/-- What a request to create asks for would fit into a sound gateway. -/
theorem intent_create (h : gateway.intent draw request = .create (.ok ()) new) :
    checkName new.kind.collection new.name = .ok () ∧ new.reported gateway.settings = new := by
  cases request <;> simp only [intent, Intent.create.injEq, reduceCtorEq] at h
  case createVrf id vrf =>
    obtain ⟨hcheck, rfl⟩ := h
    exact ⟨checkName_assignName (checkOptionalId_of_checkInterfaceId hcheck), rfl⟩
  case createBridge id bridge =>
    obtain ⟨hcheck, rfl⟩ := h
    exact ⟨checkName_assignName hcheck, rfl⟩
  case createPort id port =>
    obtain ⟨hcheck, rfl⟩ := h
    have hid := (checkPort_eq_ok hcheck).2.2.2.2
    exact ⟨checkName_assignName (checkOptionalId_of_checkInterfaceId hid), rfl⟩

theorem Sound.decide_get (sound : gateway.Sound) (h : resource ∈ gateway.resources) :
    gateway.decide draw (.get resource.kind resource.name) =
      .ok (.perform resource.probe resource.answer gateway) := by
  simp only [decide, stored, sound.wellNamed resource h, mem_resources_iff.mp h, Except.map,
    sound.reported resource h]

theorem Sound.decide_delete (sound : gateway.Sound) (h : resource ∈ gateway.resources)
    (hname : deletion.name = resource.name) :
    gateway.decide draw (.delete resource.kind deletion) =
      .ok (.perform (resource.teardown gateway.settings) .deleted
        (gateway.drop resource.kind resource.name)) := by
  simp only [decide, hname, sound.wellNamed resource h, Except.bind, dismiss,
    mem_resources_iff.mp h]

theorem Sound.put_reported (sound : gateway.Sound) (h : gateway.find? kind name = some resource) :
    gateway.put (resource.reported gateway.settings) = gateway := by
  have hmem := mem_resources_of_find? h
  rw [sound.reported resource hmem]
  exact put_of_find? (mem_resources_iff.mp hmem)

/-! ## Changes -/

/-- What a request may make of a gateway. -/
inductive Change (gateway : Gateway) (draw : Draw) (request : Request) : Gateway → Prop where
  | keep : Change gateway draw request gateway
  /-- A listing may issue a token. -/
  | issue (tokens : PageTokens) : Change gateway draw request { gateway with tokens }
  /-- A request to create adds what it asks for under a fresh name. -/
  | add {new : Resource} {calls : List Call}
      (create : gateway.intent draw request = .create (.ok ()) new)
      (fresh : gateway.find? new.kind new.name = none)
      (realizable : gateway.realization new = .ok calls) :
      Change gateway draw request (gateway.put new)
  /-- A request to delete removes the resource that it names. -/
  | remove {resource : Resource} {deletion : DeleteRequest}
      (delete : gateway.intent draw request = .delete resource.kind deletion)
      (named : deletion.name = resource.name) (stored : resource ∈ gateway.resources) :
      Change gateway draw request (gateway.drop resource.kind resource.name)

theorem decide_change (sound : gateway.Sound)
    (h : gateway.decide draw (gateway.intent draw request) = .ok undertaking) :
    gateway.Change draw request undertaking.after := by
  cases hintent : gateway.intent draw request with
  | create check new =>
    rw [hintent] at h
    obtain ⟨rfl, ⟨existing, -, rfl⟩ | ⟨hfresh, calls, hcalls, rfl⟩⟩ := decide_create h
    · exact .keep
    · exact .add hintent hfresh hcalls
  | update requested =>
    rw [hintent] at h
    obtain ⟨existing, hfound, rfl⟩ := decide_update h
    rw [after_renew, sound.put_reported hfound]
    exact .keep
  | get kind name =>
    rw [hintent] at h
    obtain ⟨existing, -, rfl⟩ := decide_get h
    exact .keep
  | delete kind deletion =>
    rw [hintent] at h
    obtain ⟨existing, hfound, rfl⟩ | ⟨-, rfl⟩ := decide_delete h
    · have hmem := mem_resources_of_find? hfound
      obtain ⟨rfl, hname⟩ := kind_name_of_find? hfound
      rw [← hname]
      exact .remove hintent hname.symm hmem
    · exact .keep
  | list kind listing =>
    rw [hintent] at h
    obtain ⟨answer, page, tokens, rfl, -⟩ := decide_list h
    exact .issue tokens

/-- **A request keeps the stores, adds a new resource or removes a stored one**, whatever the
backends answer. -/
theorem step_change {σ : Type} (sound : gateway.Sound) (backends : Backends σ) (draw : Draw)
    (request : Request) (state : σ) :
    gateway.Change draw request (gateway.step backends draw request state).gateway := by
  cases step_course backends gateway draw request state with
  | refused error decision answer same silent =>
    rw [same]
    exact .keep
  | failed undertaking before call error decision answer same last passed =>
    rw [same]
    exact .keep
  | done undertaking decision answer after passed =>
    rw [after]
    exact decide_change sound decision

namespace Change

theorem sound (h : gateway.Change draw request after) (sound : gateway.Sound) : after.Sound := by
  cases h with
  | keep => exact sound
  | issue tokens => exact ⟨sound.wellNamed, sound.reported⟩
  | add create fresh realizable =>
    obtain ⟨hname, hreported⟩ := intent_create create
    refine ⟨fun resource hmem => ?_, fun resource hmem => ?_⟩
    · rcases mem_resources_put.mp hmem with rfl | ⟨hold, -⟩
      · exact hname
      · exact sound.wellNamed resource hold
    · rw [settings_put]
      rcases mem_resources_put.mp hmem with rfl | ⟨hold, -⟩
      · exact hreported
      · exact sound.reported resource hold
  | remove delete named stored =>
    refine ⟨fun resource hmem => ?_, fun resource hmem => ?_⟩
    · exact sound.wellNamed resource (mem_resources_drop.mp hmem).1
    · rw [settings_drop]
      exact sound.reported resource (mem_resources_drop.mp hmem).1

theorem settings_eq (h : gateway.Change draw request after) :
    after.settings = gateway.settings := by
  cases h with
  | keep | issue tokens => rfl
  | add create fresh realizable => exact settings_put
  | remove delete named stored => exact settings_drop

end Change

/-! ## Reachable gateways -/

/-- The gateways that requests can lead to, whatever backends serve them. -/
inductive Reachable (settings : Settings) : Gateway → Prop where
  | fresh : Reachable settings { settings }
  | step {σ : Type} {gateway : Gateway} (reachable : Reachable settings gateway)
      (backends : Backends σ) (draw : Draw) (request : Request) (state : σ) :
      Reachable settings (gateway.step backends draw request state).gateway

theorem sound_fresh (settings : Settings) : ({ settings } : Gateway).Sound :=
  ⟨fun _ hmem => absurd hmem List.not_mem_nil, fun _ hmem => absurd hmem List.not_mem_nil⟩

namespace Reachable

/-- **Reachable gateways are sound.** -/
theorem sound (h : Reachable settings gateway) : gateway.Sound := by
  induction h with
  | fresh => exact sound_fresh settings
  | step reachable backends draw request state ih =>
    exact (step_change ih backends draw request state).sound ih

/-- **What changes preserve holds in every reachable gateway.** -/
theorem invariant (Invariant : Gateway → Prop) (fresh : Invariant { settings })
    (preserved : ∀ {gateway after : Gateway} {draw : Draw} {request : Request},
      Invariant gateway → gateway.Change draw request after → Invariant after)
    (h : Reachable settings gateway) : Invariant gateway := by
  induction h with
  | fresh => exact fresh
  | step reachable backends draw request state ih =>
    exact preserved ih (step_change reachable.sound backends draw request state)

theorem settings_eq (h : Reachable settings gateway) : gateway.settings = settings :=
  h.invariant (·.settings = settings) rfl fun hsame hchange => hchange.settings_eq.trans hsame

end Reachable

end Gateway

end EvpnGateway
