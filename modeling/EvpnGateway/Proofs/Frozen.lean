import EvpnGateway.Backend.Simulation
import EvpnGateway.Proofs.Reachable
/-!
# Committed resources are frozen

Between the request that creates a resource and one that deletes it, requests find it as it was
created, whatever they ask for and whatever the backends answer.

* `shown_of_decide`: what an answer shows is stored, or new under a fresh name;
* `step_create_stored`, `step_update`, `step_get`: requests for what is there;
* `step_keeps`: a stored resource stays until a request to delete it succeeds;
* `Kept`: the gateways between the two; **`Kept.frozen`**.
-/

namespace EvpnGateway.Gateway

variable {σ : Type} {settings : Settings} {gateway : Gateway} {draw : Draw} {request : Request}
  {undertaking : Undertaking} {resource new requested : Resource} {answer : Answer} {kind : Kind}
  {name : String}

/-! ## What answers show -/

/-- In a sound gateway an answer shows stored resources or a new one. -/
theorem shown_of_decide (sound : gateway.Sound)
    (h : gateway.decide draw (gateway.intent draw request) = .ok undertaking) :
    ∀ item ∈ undertaking.answer.items,
      item ∈ gateway.resources ∨ gateway.find? item.kind item.name = none := by
  intro item hitem
  cases hintent : gateway.intent draw request with
  | create check new =>
    rw [hintent] at h
    obtain ⟨rfl, ⟨existing, hfound, rfl⟩ | ⟨hfresh, calls, -, rfl⟩⟩ := decide_create h
    · obtain rfl : item = existing := by simpa [Undertaking.answer] using hitem
      exact .inl (mem_resources_of_find? hfound)
    · obtain rfl : item = new := by simpa [Undertaking.answer] using hitem
      exact .inr hfresh
  | update requested =>
    rw [hintent] at h
    obtain ⟨existing, hfound, rfl⟩ := decide_update h
    have hmem := mem_resources_of_find? hfound
    rw [answer_renew, sound.reported existing hmem, Answer.items_answer,
      List.mem_singleton] at hitem
    exact .inl (hitem ▸ hmem)
  | get kind name =>
    rw [hintent] at h
    obtain ⟨existing, hfound, rfl⟩ := decide_get h
    have hmem := mem_resources_of_find? hfound
    simp only [Undertaking.answer, sound.reported existing hmem, Answer.items_answer,
      List.mem_singleton] at hitem
    exact .inl (hitem ▸ hmem)
  | delete kind deletion =>
    rw [hintent] at h
    obtain ⟨existing, -, rfl⟩ | ⟨-, rfl⟩ := decide_delete h <;> exact absurd hitem List.not_mem_nil
  | list kind listing =>
    rw [hintent] at h
    obtain ⟨shown, page, tokens, rfl, hshown, hpage⟩ := decide_list h
    exact .inl (items_subset_resources hshown hpage hitem)

theorem decide_of_answer {backends : Backends σ} {state : σ}
    (h : (gateway.step backends draw request state).answer = .ok answer) :
    ∃ undertaking, gateway.decide draw (gateway.intent draw request) = .ok undertaking ∧
      answer = undertaking.answer ∧
      (gateway.step backends draw request state).gateway = undertaking.after := by
  cases step_course backends gateway draw request state with
  | refused error decision failure same silent => exact nomatch failure.symm.trans h
  | failed undertaking before call error decision failure same last passed =>
    exact nomatch failure.symm.trans h
  | done undertaking decision success after passed =>
    exact ⟨undertaking, decision, Except.ok.inj (h.symm.trans success), after⟩

theorem find?_of_deleted {deletion : DeleteRequest} {backends : Backends σ} {state : σ}
    (hdelete : gateway.intent draw request = .delete kind deletion)
    (hanswer : (gateway.step backends draw request state).answer = .ok answer) :
    (gateway.step backends draw request state).gateway.find? kind deletion.name = none := by
  obtain ⟨undertaking, hdecision, -, hafter⟩ := decide_of_answer hanswer
  rw [hafter]
  rw [hdelete] at hdecision
  obtain ⟨existing, -, rfl⟩ | ⟨hmissing, rfl⟩ := decide_delete hdecision
  · exact (find?_drop ..).trans (if_pos ⟨rfl, rfl⟩)
  · exact hmissing

theorem step_create_stored (hcreate : gateway.intent draw request = .create (.ok ()) new)
    (hfound : gateway.find? new.kind new.name = some resource) (backends : Backends σ)
    (state : σ) :
    gateway.step backends draw request state = ⟨.ok resource.answer, [], gateway, state⟩ := by
  have hdecision : gateway.decide draw (gateway.intent draw request) =
      .ok (.perform [] resource.answer gateway) := by
    rw [hcreate, decide_create_stored hfound]
  exact step_undertaken backends state hdecision

theorem step_update (sound : gateway.Sound) {backends : Backends σ} {state : σ}
    (hupdate : gateway.intent draw request = .update requested)
    (hanswer : (gateway.step backends draw request state).answer = .ok answer) :
    ∃ existing, gateway.find? requested.kind requested.name = some existing ∧
      answer = existing.answer ∧ (gateway.step backends draw request state).gateway = gateway := by
  obtain ⟨undertaking, hdecision, rfl, hafter⟩ := decide_of_answer hanswer
  rw [hupdate] at hdecision
  obtain ⟨existing, hfound, rfl⟩ := decide_update hdecision
  refine ⟨existing, hfound, ?_, ?_⟩
  · rw [answer_renew, sound.reported existing (mem_resources_of_find? hfound)]
  · rw [hafter, after_renew, sound.put_reported hfound]

theorem step_get (sound : gateway.Sound) {backends : Backends σ} {state : σ}
    (hget : gateway.intent draw request = .get kind name)
    (hanswer : (gateway.step backends draw request state).answer = .ok answer) :
    ∃ existing, gateway.find? kind name = some existing ∧ answer = existing.answer := by
  obtain ⟨undertaking, hdecision, rfl, -⟩ := decide_of_answer hanswer
  rw [hget] at hdecision
  obtain ⟨existing, hfound, rfl⟩ := decide_get hdecision
  refine ⟨existing, hfound, ?_⟩
  simp only [Undertaking.answer, sound.reported existing (mem_resources_of_find? hfound)]

/-! ## From creation to deletion -/

/-- A stored resource stays until a request to delete it succeeds. -/
theorem step_keeps (sound : gateway.Sound) (hmem : resource ∈ gateway.resources)
    (backends : Backends σ) (draw : Draw) (request : Request) (state : σ) :
    resource ∈ (gateway.step backends draw request state).gateway.resources ∨
      ∃ deletion, gateway.intent draw request = .delete resource.kind deletion ∧
        deletion.name = resource.name ∧
        (gateway.step backends draw request state).answer = .ok .deleted := by
  cases step_course backends gateway draw request state with
  | refused error decision answer same silent => exact .inl (by rwa [same])
  | failed undertaking before call error decision answer same last passed =>
    exact .inl (by rwa [same])
  | done undertaking decision answer hafter passed =>
    rw [hafter, answer]
    have hchange := decide_change sound decision
    generalize undertaking.after = after at hchange ⊢
    cases hchange with
    | keep => exact .inl hmem
    | issue tokens => exact .inl hmem
    | add create fresh realizable =>
      refine .inl (mem_resources_put.mpr (.inr ⟨hmem, fun hsame => ?_⟩))
      rw [hsame.1, hsame.2, mem_resources_iff.mp hmem] at fresh
      exact nomatch fresh
    | @remove removed deletion delete named stored =>
      by_cases hsame : resource = removed
      · subst hsame
        refine .inr ⟨deletion, delete, named, ?_⟩
        rw [delete] at decision
        obtain ⟨_, -, rfl⟩ | ⟨-, rfl⟩ := decide_delete decision <;> rfl
      · exact .inl ((mem_resources_drop_iff_ne stored).mpr ⟨hmem, hsame⟩)

/-- The gateways from the request that created a resource to the one that deletes it. A request to
create names what it stores; that it succeeded under an unused name is what commits the resource. -/
inductive Kept (settings : Settings) (resource : Resource) : Gateway → Prop where
  | commit {σ : Type} {gateway : Gateway} {check : Check} {new : Resource}
      (reachable : Reachable settings gateway) (backends : Backends σ) (draw : Draw)
      (request : Request) (state : σ)
      (create : gateway.intent draw request = .create check new)
      (fresh : gateway.find? new.kind new.name = none)
      (committed : (gateway.step backends draw request state).answer = .ok resource.answer) :
      Kept settings resource (gateway.step backends draw request state).gateway
  | step {σ : Type} {gateway : Gateway} (kept : Kept settings resource gateway)
      (backends : Backends σ) (draw : Draw) (request : Request) (state : σ)
      (notDeleted : ∀ deletion, gateway.intent draw request = .delete resource.kind deletion →
        deletion.name = resource.name →
        (gateway.step backends draw request state).answer ≠ .ok .deleted) :
      Kept settings resource (gateway.step backends draw request state).gateway

namespace Kept

theorem reachable (h : Kept settings resource gateway) : Reachable settings gateway := by
  induction h with
  | commit reachable backends draw request state =>
    exact .step reachable backends draw request state
  | step kept backends draw request state notDeleted ih =>
    exact .step ih backends draw request state

/-- **A kept resource is stored.** -/
theorem mem_resources (h : Kept settings resource gateway) : resource ∈ gateway.resources := by
  induction h with
  | commit reachable backends draw request state create fresh committed =>
    obtain ⟨undertaking, hdecision, hanswer, hafter⟩ := decide_of_answer committed
    rw [create] at hdecision
    obtain ⟨-, ⟨existing, hfound, -⟩ | ⟨-, calls, -, rfl⟩⟩ := decide_create hdecision
    · rw [fresh] at hfound
      exact nomatch hfound
    · obtain rfl := Resource.answer_injective hanswer
      rw [hafter]
      exact mem_resources_put.mpr (.inl rfl)
  | step kept backends draw request state notDeleted ih =>
    rcases step_keeps kept.reachable.sound ih backends draw request state with
      hmem | ⟨deletion, hdelete, hname, hanswer⟩
    · exact hmem
    · exact absurd hanswer (notDeleted deletion hdelete hname)

/-- **A committed resource is frozen.** Requests to create it again are answered with it without any
call. Successful requests to update or to look it up are answered with it, and whatever is shown
under its name is it. Successful updates leave the gateway as it was. -/
theorem frozen (h : Kept settings resource gateway) (backends : Backends σ) (draw : Draw)
    (request : Request) (state : σ) :
    let served := gateway.step backends draw request state
    (∀ new, gateway.intent draw request = .create (.ok ()) new → new.kind = resource.kind →
      new.name = resource.name →
      served.answer = .ok resource.answer ∧ served.calls = [] ∧ served.gateway = gateway) ∧
    (∀ answer, served.answer = .ok answer →
      (∀ requested, gateway.intent draw request = .update requested →
        requested.kind = resource.kind → requested.name = resource.name →
        answer = resource.answer) ∧
      (gateway.intent draw request = .get resource.kind resource.name → answer = resource.answer) ∧
      ∀ item ∈ answer.items, item.kind = resource.kind → item.name = resource.name →
        item = resource) ∧
    ∀ requested answer, gateway.intent draw request = .update requested →
      served.answer = .ok answer → served.gateway = gateway := by
  have hsound := h.reachable.sound
  have hmem := h.mem_resources
  have hfind := mem_resources_iff.mp hmem
  refine ⟨fun new hcreate hkind hname => ?_, fun answer hanswer =>
    ⟨fun requested hupdate hkind hname => ?_, fun hget => ?_, fun item hitem hkind hname => ?_⟩,
    fun requested answer hupdate hanswer => ?_⟩
  · rw [← hkind, ← hname] at hfind
    rw [step_create_stored hcreate hfind]
    exact ⟨rfl, rfl, rfl⟩
  · obtain ⟨existing, hfound, rfl, -⟩ := step_update hsound hupdate hanswer
    rw [hkind, hname, hfind] at hfound
    rw [Option.some.inj hfound]
  · obtain ⟨existing, hfound, rfl⟩ := step_get hsound hget hanswer
    rw [hfind] at hfound
    rw [Option.some.inj hfound]
  · obtain ⟨undertaking, hdecision, rfl, -⟩ := decide_of_answer hanswer
    rcases shown_of_decide hsound hdecision item hitem with hstored | hunused
    · exact eq_of_kind_name hstored hmem hkind hname
    · rw [hkind, hname, hfind] at hunused
      exact nomatch hunused
  · obtain ⟨existing, -, -, hsame⟩ := step_update hsound hupdate hanswer
    exact hsame

/-- A VRF that is to be created again, with another specification. -/
theorem frozen_blue :
    let draw : Draw := ⟨⟨0, 0⟩, .zero, ⟨0, 0⟩⟩
    let create : Request := .createVrf "blue" { spec := { vni := some ⟨100, by decide⟩ } }
    let served := ({} : Gateway).step Simulation.backends draw create {}
    let blue : Resource := .vrf (newVrf {} draw "blue" { vni := some ⟨100, by decide⟩ })
    Kept {} blue served.gateway ∧
      (served.gateway.step Simulation.backends draw (.createVrf "blue" {}) served.backends).answer =
        .ok blue.answer := by
  intro draw create served blue
  have kept : Kept {} blue served.gateway :=
    .commit .fresh Simulation.backends draw create {} rfl rfl (by decide +kernel)
  have hcheck : checkInterfaceId "vrf_id" "blue" = .ok () := by decide +kernel
  exact ⟨kept, ((kept.frozen Simulation.backends draw (.createVrf "blue" {}) served.backends).1
    (.vrf (served.gateway.newVrf draw "blue" {})) (by rw [intent, hcheck]) (by decide)
    (by decide +kernel)).1⟩

end Kept

end EvpnGateway.Gateway
