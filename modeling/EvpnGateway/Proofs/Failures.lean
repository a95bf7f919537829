import EvpnGateway.Backend.Simulation
import EvpnGateway.Proofs.LookUps
/-!
# Failures and what they leave behind

Clients tell errors apart by their codes. What is wrong with a request shows before the first call,
so an error of the client means that nothing has happened. Once calls have been made only they can
fail, and not in the same way: with an internal error, or because a link that they look for is not
there.

* `Call.MayFail`: the errors that a call may have; `Backends.Classified`: backends without others;
* **`Simulation.classified`**, **`Tools.classified`**: the simulated backends and those made of
  command line tools, whatever the commands come to;
* `Gateway.FailsCleanly`: what an error says about the calls that were made;
  `step_failsCleanly`: over classified backends;
* **`Gateway.client_errors_first`**.
-/

namespace EvpnGateway

/-! ## Errors of calls -/

/-- The errors that a call may have: internal ones, and for a look-up that there is no such link. -/
inductive Call.MayFail : Call → GatewayError → Prop where
  | inside {call : Call} {error : GatewayError} (internal : error.code = .internal) :
      MayFail call error
  | missing (device : String) : MayFail (.linkByName device) (.notFound device)

/-- Backends whose calls have no other errors. -/
def Backends.Classified {σ : Type} (backends : Backends σ) : Prop :=
  ∀ call state error, (backends call state).1 = .error error → call.MayFail error

theorem Call.MayFail.code_ne_invalidArgument {call : Call} {error : GatewayError}
    (h : call.MayFail error) : error.code ≠ .invalidArgument := by
  cases h with
  | inside internal => simp [internal]
  | missing device => nofun

/-! ## Simulated backends -/

namespace Simulation

theorem code_of_refusal? {call : Call} {simulation : Simulation} {error : GatewayError}
    (h : (refusal? call simulation).1 = some error) : error.code = .internal := by
  have hdown : ∀ operation, (if simulation.routingDown then
      some (GatewayError.routing operation "vtysh connection refused") else none) = some error →
      error.code = .internal := by
    intro operation h
    split_ifs at h
    exact Option.some.inj h ▸ rfl
  have htrip : (if (trip call simulation.faults).1 then
      some (GatewayError.link call.word "injected failure") else none) = some error →
      error.code = .internal := by
    intro h
    split_ifs at h
    exact Option.some.inj h ▸ rfl
  cases call with
  | applyVrf vrf => exact hdown _ h
  | removeVrf vrf => exact hdown _ h
  | linkAdd | linkDel | linkByName | linkModify | addressAdd | vlanAdd | vlanDel => exact htrip h

theorem mayFail_of_perform {call : Call} {simulation : Simulation} {error : GatewayError}
    (h : (perform call simulation).1 = .error error) : call.MayFail error := by
  cases call with
  | linkAdd spec =>
    simp only [perform] at h
    split_ifs at h
    · exact .inside (Except.error.inj h ▸ rfl)
    · exact .inside (Except.error.inj h ▸ rfl)
  | linkDel name =>
    simp only [perform] at h
    split_ifs at h
    exact .inside (Except.error.inj h ▸ rfl)
  | linkByName name =>
    simp only [perform] at h
    split at h
    · exact nomatch h
    · exact Except.error.inj h ▸ .missing name
  | linkModify | addressAdd | vlanAdd | vlanDel | applyVrf | removeVrf => exact nomatch h

/-- **Simulated calls have errors of their own only.** -/
theorem classified : Simulation.backends.Classified := by
  intro call simulation error h
  unfold backends at h
  rcases hrefusal : refusal? call simulation with ⟨_ | other, rest⟩
  · rw [hrefusal] at h
    exact mayFail_of_perform h
  · rw [hrefusal] at h
    obtain rfl : other = error := Except.error.inj h
    exact .inside (code_of_refusal? (congrArg Prod.fst hrefusal))

end Simulation

/-! ## Backends made of tools -/

section Tools

variable {σ : Type} {run : Interaction.Handler String (fun _ => ProcessReport) σ} {state : σ}
  {error : GatewayError}

theorem Step.Labelled.code {step : Step} (h : step.Labelled) (cause : GatewayError) :
    (step.failure cause).code = .internal := by
  obtain ⟨operation, hfailure⟩ := h
  rw [hfailure]
  split_ifs <;> rfl

theorem exists_step_of_failed {steps : List Step} {reply : Shell (Except GatewayError Unit)}
    (hreply : reply = performSteps steps) (h : (reply.run run state).result = .error error) :
    ∃ step ∈ steps, ∃ cause, error = step.failure cause := by
  rw [hreply] at h
  rcases (run_performSteps run steps state).2 with
    ⟨hok, -⟩ | ⟨before, last, cause, hfailed, htried, -⟩
  · exact nomatch hok.symm.trans h
  · have hbegin := attempts_prefix run steps state
    rw [htried, List.map_append] at hbegin
    exact ⟨last.step, hbegin.subset (List.mem_append_right _ (List.mem_singleton_self _)), cause,
      Except.error.inj (h.symm.trans hfailed)⟩

theorem code_of_failed (call : Call) {reply : Shell (Except GatewayError Unit)}
    (hreply : reply = performSteps call.steps) (hcall : call.setsUp ∨ call.takesDown)
    (h : (reply.run run state).result = .error error) : error.code = .internal := by
  obtain ⟨step, hmem, cause, rfl⟩ := exists_step_of_failed hreply h
  exact (labelled_of_mem_steps hcall hmem).code cause

/-- Looking for a link fails if the tool cannot be started, if it knows no such link, or if its
report cannot be read. -/
theorem mayFail_of_linkByName {name : String}
    (h : ((Tools.linkByName name).run run state).result = .error error) :
    (Call.linkByName name).MayFail error := by
  obtain rfl | ⟨command, reason, rfl⟩ | ⟨reason, rfl⟩ := (lookUp run name state).errors error h
  · exact .missing name
  · exact .inside rfl
  · exact .inside rfl

/-- **Tools have errors of their own only**, whatever their commands come to. -/
theorem Tools.classified (run : Interaction.Handler String (fun _ => ProcessReport) σ) :
    (Tools.backends run).Classified := by
  rintro call ⟨state, commands⟩ error h
  change ((Tools.reply call).run run state).result = .error error at h
  cases call with
  | linkAdd spec =>
    exact .inside (code_of_failed (.linkAdd spec) (linkAdd_eq_performSteps spec) (.inl rfl) h)
  | linkDel name =>
    exact .inside (code_of_failed (.linkDel name) (step_eq_performSteps ..) (.inr rfl) h)
  | linkByName name => exact mayFail_of_linkByName h
  | linkModify link =>
    obtain ⟨step, hmem, cause, rfl⟩ :=
      exists_step_of_failed (step_eq_performSteps _ (Command.linkSetUp link.name)) h
    exact .inside (List.mem_singleton.mp hmem ▸ rfl)
  | addressAdd name address =>
    exact .inside (code_of_failed (.addressAdd name address) (step_eq_performSteps ..)
      (.inl rfl) h)
  | vlanAdd device vlan tagging onBridge =>
    exact .inside (code_of_failed (.vlanAdd device vlan tagging onBridge)
      (step_eq_performSteps ..) (.inl rfl) h)
  | vlanDel device vlan onBridge =>
    exact .inside (code_of_failed (.vlanDel device vlan onBridge) (step_eq_performSteps ..)
      (.inr rfl) h)
  | applyVrf vrf =>
    exact .inside (code_of_failed (.applyVrf vrf) (routing_eq_performSteps ..) (.inl rfl) h)
  | removeVrf vrf =>
    exact .inside (code_of_failed (.removeVrf vrf) (routing_eq_performSteps ..) (.inr rfl) h)

end Tools

/-! ## Errors of requests -/

/-- A request to get or to update a resource. -/
def Request.getsOrUpdates : Request → Bool
  | getVrf _ | getBridge _ | getPort _ | updateVrf _ | updateBridge _ => true
  | _ => false

theorem Gateway.looks_intent (gateway : Gateway) (draw : Draw) (request : Request) :
    (gateway.intent draw request).looks = request.getsOrUpdates := by cases request <;> rfl

theorem Request.not_getsOrUpdates {request : Request} (h : request.createsOrDeletes) :
    request.getsOrUpdates = false := by
  cases request <;> first | rfl | exact absurd h Bool.false_ne_true

namespace Gateway

variable {σ : Type} {backends : Backends σ} {gateway : Gateway} {draw : Draw} {request : Request}
  {state : σ}

/-- What the error of a request says about the calls that were made. -/
structure FailsCleanly (backends : Backends σ) (gateway : Gateway) (draw : Draw)
    (request : Request) (state : σ) : Prop where
  /-- With an invalid argument no call was made and nothing changed. -/
  invalid : ∀ error, (gateway.step backends draw request state).answer = .error error →
    error.code = .invalidArgument →
    gateway.step backends draw request state = ⟨.error error, [], gateway, state⟩
  /-- Nor if what should be deleted, or what a new resource needs, is not found. -/
  missing : request.createsOrDeletes → ∀ error,
    (gateway.step backends draw request state).answer = .error error → error.code = .notFound →
    gateway.step backends draw request state = ⟨.error error, [], gateway, state⟩
  /-- With calls made, an error is that of the last of them: an internal one, or that a link which
  is looked for in order to show or to update a resource is not there. -/
  late : (gateway.step backends draw request state).calls ≠ [] → ∀ error,
    (gateway.step backends draw request state).answer = .error error →
    ∃ before call, gateway.exchanges backends draw request state =
        before ++ [⟨call, .error error⟩] ∧ (∀ exchange ∈ before, exchange.succeeded) ∧
      (error.code = .internal ∨
        request.getsOrUpdates ∧ ∃ device, call = .linkByName device ∧ error = .notFound device)

theorem getsOrUpdates_of_linkByName {exchange : Exchange Call Call.Reply} {device : String}
    (h : exchange ∈ gateway.exchanges backends draw request state)
    (hlook : exchange.question = .linkByName device) : request.getsOrUpdates := by
  rw [← looks_intent gateway draw request]
  by_contra hother
  have heffect := question_of_mem_exchanges (fun call => call ≠ .linkByName device)
    (fun new calls _ hcalls call hcall => ?_)
    (fun kind deletion resource _ _ _ call hcall => ?_)
    (fun hlooks => absurd hlooks hother) (fun _ => nofun) h
  · exact heffect hlook
  · rintro rfl
    exact nomatch Resource.setsUp_of_realization hcalls _ hcall
  · rintro rfl
    exact nomatch resource.takesDown_of_teardown gateway.settings _ hcall

/-- **Over classified backends errors come before all calls or from the last of them.** -/
theorem step_failsCleanly (h : backends.Classified) (gateway : Gateway) (draw : Draw)
    (request : Request) (state : σ) : gateway.FailsCleanly backends draw request state := by
  cases step_course backends gateway draw request state with
  | refused cause decision answer same silent =>
    -- an early error is the answer, and there is nothing else
    have hrefused := step_refused backends state decision
    have hsame : ∀ error, (gateway.step backends draw request state).answer = .error error →
        gateway.step backends draw request state = ⟨.error error, [], gateway, state⟩ := by
      intro error herror
      obtain rfl : cause = error := Except.error.inj (answer.symm.trans herror)
      exact hrefused
    exact ⟨fun error herror _ => hsame error herror, fun _ error herror _ => hsame error herror,
      fun hcalls => absurd (congrArg Served.calls hrefused) hcalls⟩
  | failed undertaking before call cause decision answer same last passed =>
    have hmem : ⟨call, .error cause⟩ ∈ gateway.exchanges backends draw request state := by
      rw [last]
      simp
    obtain ⟨earlier, hreply⟩ := Interaction.exists_answer_of_mem_dialogue hmem
    have hcause := h call earlier cause hreply
    have hcases : cause.code = .internal ∨
        request.getsOrUpdates ∧ ∃ device, call = .linkByName device ∧ cause = .notFound device := by
      cases hcause with
      | inside internal => exact .inl internal
      | missing device => exact .inr ⟨getsOrUpdates_of_linkByName hmem rfl, device, rfl, rfl⟩
    refine ⟨fun error herror hcode => ?_, fun hrequest error herror hcode => ?_,
      fun _ error herror => ?_⟩ <;>
      obtain rfl : cause = error := Except.error.inj (answer.symm.trans herror)
    · exact absurd hcode hcause.code_ne_invalidArgument
    · rcases hcases with hinternal | ⟨hother, -⟩
      · exact nomatch hinternal.symm.trans hcode
      · exact nomatch (Request.not_getsOrUpdates hrequest).symm.trans hother
    · exact ⟨before, call, last, passed, hcases⟩
  | done undertaking decision answer after passed =>
    refine ⟨fun error herror => ?_, fun _ error herror => ?_, fun _ error herror => ?_⟩ <;>
      exact nomatch answer.symm.trans herror

/-- **Errors of the client come before all effects.** Over simulated backends, with any faults, and
over command line tools, whatever their commands come to: a request with an invalid argument makes
no call and changes nothing, and neither does one to create or to delete that does not find
something. An error after a call is that of the call, and not the client's, unless a link is looked
for in order to show or to update a resource. -/
theorem client_errors_first (gateway : Gateway) (draw : Draw) (request : Request) :
    (∀ simulation, gateway.FailsCleanly Simulation.backends draw request simulation) ∧
    ∀ {σ : Type} (run : Interaction.Handler String (fun _ => ProcessReport) σ) (state : σ)
      (commands : List String),
      gateway.FailsCleanly (Tools.backends run) draw request (state, commands) :=
  ⟨fun simulation => step_failsCleanly Simulation.classified gateway draw request simulation,
    fun run state commands =>
      step_failsCleanly (Tools.classified run) gateway draw request (state, commands)⟩

/-- A VRF with a bad id is refused. One whose device has vanished is shown. -/
theorem client_errors_first_blue :
    let draw : Draw := ⟨⟨0, 0⟩, .zero, ⟨0, 0⟩⟩
    let gateway := (({} : Gateway).step Simulation.backends draw (.createVrf "blue" {}) {}).gateway
    let refusal : Refusal := .idLength 3
    let look : Request := .getVrf "vrfs/blue"
    gateway.step (Tools.backends Script.handler) draw (.createVrf "Red" {}) ([], []) =
        ⟨refuse refusal, [], gateway, ([], [])⟩ ∧
      (gateway.step Simulation.backends draw look {}).answer = .error (.notFound "blue") ∧
      ∃ before call, gateway.exchanges Simulation.backends draw look {} =
          before ++ [⟨call, .error (.notFound "blue")⟩] ∧ ∃ device, call = .linkByName device := by
  intro draw gateway refusal look
  have hrefused : (gateway.step (Tools.backends Script.handler) draw (.createVrf "Red" {})
      ([], [])).answer = .error refusal.toError := by decide +kernel
  have hshown : (gateway.step Simulation.backends draw look {}).answer =
      .error (.notFound "blue") := by decide +kernel
  have hcalls : (gateway.step Simulation.backends draw look {}).calls ≠ [] := by decide +kernel
  obtain ⟨before, call, hlast, -, hinternal | ⟨-, device, hlook, -⟩⟩ :=
    ((client_errors_first gateway draw look).1 {}).late hcalls _ hshown
  · exact nomatch hinternal
  · exact ⟨((client_errors_first gateway draw (.createVrf "Red" {})).2 Script.handler [] []).invalid
      _ hrefused rfl, hshown, before, call, hlast, device, hlook⟩

end Gateway

end EvpnGateway
