import EvpnGateway.Proofs.Decisions
/-!
# Exchanges with the backends

Serving a request makes calls one after the other. The first call that fails is the last, and only
when all of them succeeded is anything written.

* `Exchange`, `Interaction.dialogue`: a question with its answer, and all of them in a run;
* `Interaction.Asks`: all questions that a plan may ask have a property;
* `Call.setsUp`, `Call.takesDown`: resources are set up and taken down with calls of two kinds;
* `Commits`: plans that a failure ends, and that write at their end;
* **`Commits.run_cases`**: every call succeeds and the run ends well, or the last call fails;
* `Backends.mended`: backends without their failures; **`Commits.asked_prefix_mended`**: a run makes
  the first of the calls that would be made without failures;
* `Gateway.exchanges`, **`step_course`**: what serving a request comes to.
-/

namespace EvpnGateway

/-! ## Dialogues -/

/-- A question and the answer to it. -/
structure Exchange (Q : Type) (A : Q → Type) where
  question : Q
  answer : A question

namespace Interaction

variable {Q : Type} {A : Q → Type} {α σ : Type}

/-- The exchanges of a run, in order. -/
def dialogue (handler : Handler Q A σ) : Interaction Q A α → σ → List (Exchange Q A)
  | done _, _ => []
  | ask question next, state =>
    let (answer, state) := handler question state
    ⟨question, answer⟩ :: (next answer).dialogue handler state

theorem questions_dialogue (handler : Handler Q A σ) (interaction : Interaction Q A α) (state : σ) :
    (interaction.dialogue handler state).map Exchange.question =
      (interaction.run handler state).asked := by
  induction interaction generalizing state with
  | done result => rfl
  | ask question next ih =>
    simp only [dialogue, run, List.map_cons]
    rw [ih]

end Interaction

/-- An exchange with a backend in which the call succeeded. -/
def Exchange.succeeded (exchange : Exchange Call Call.Reply) : Bool := exchange.answer.isOk

/-! ## Questions of a plan -/

section Asks

open Interaction

variable {Q : Type} {A : Q → Type} {α σ : Type}

/-- All questions that an interaction may ask have a property. -/
inductive Interaction.Asks (property : Q → Prop) : Interaction Q A α → Prop where
  | done (result : α) : Asks property (done result)
  | ask {question : Q} {next : A question → Interaction Q A α} (first : property question)
      (rest : ∀ answer, Asks property (next answer)) : Asks property (ask question next)

/-- What every answered question keeps is there at the end of a run. -/
theorem Interaction.Asks.run_invariant {property : Q → Prop} {handler : Handler Q A σ}
    (Invariant : σ → Prop)
    (kept : ∀ question state, property question → Invariant state →
      Invariant (handler question state).2)
    {interaction : Interaction Q A α} (h : interaction.Asks property) {state : σ}
    (hstate : Invariant state) : Invariant (interaction.run handler state).state := by
  induction h generalizing state with
  | done result => exact hstate
  | @ask question next first rest ih =>
    simp only [run]
    exact ih _ (kept question state first hstate)

theorem Interaction.exists_answer_of_mem_dialogue {handler : Handler Q A σ}
    {interaction : Interaction Q A α} {state : σ} {exchange : Exchange Q A}
    (hmem : exchange ∈ interaction.dialogue handler state) :
    ∃ state, (handler exchange.question state).1 = exchange.answer := by
  induction interaction generalizing state with
  | done result => exact absurd hmem List.not_mem_nil
  | ask question next ih =>
    rcases List.mem_cons.mp hmem with rfl | hmem
    · exact ⟨state, rfl⟩
    · exact ih _ hmem

theorem Interaction.Asks.of_mem_dialogue {property : Q → Prop} {handler : Handler Q A σ}
    {interaction : Interaction Q A α} (h : interaction.Asks property) {state : σ}
    {exchange : Exchange Q A} (hmem : exchange ∈ interaction.dialogue handler state) :
    property exchange.question := by
  induction h generalizing state with
  | done result => exact absurd hmem List.not_mem_nil
  | @ask question next first rest ih =>
    rcases List.mem_cons.mp hmem with rfl | hmem
    · exact first
    · exact ih _ hmem

variable {property : Call → Prop}

theorem asks_conclude {gateway after : Gateway} {value : α} {calls : List Call}
    (h : ∀ call ∈ calls, property call) : (conclude gateway value after calls).Asks property := by
  induction calls with
  | nil => exact .done _
  | cons call calls ih =>
    refine .ask (h call List.mem_cons_self) fun reply => ?_
    cases reply with
    | error error => exact .done _
    | ok value => exact ih fun other hmem => h other (List.mem_cons_of_mem _ hmem)

theorem asks_renew {device? : Option String}
    (look : ∀ device ∈ device?, property (.linkByName device))
    (modify : ∀ link, property (.linkModify link)) (gateway : Gateway) (resource : Resource) :
    ((gateway.renew device? resource).plan gateway).Asks property := by
  cases device? with
  | none => exact .done _
  | some device =>
    refine .ask (look device rfl) fun reply => ?_
    cases reply with
    | error error => exact .done _
    | ok link => exact asks_conclude fun call hcall => List.mem_singleton.mp hcall ▸ modify link

theorem Resource.mem_devices_of_renewal? {resource : Resource} :
    ∀ device ∈ resource.renewal?, device ∈ resource.devices := by
  intro device hdevice
  cases resource with
  | vrf v => exact Option.some.inj hdevice ▸ List.mem_cons_self
  | bridge b =>
    simp only [renewal?, LogicalBridge.revision, Option.mem_def, devices] at hdevice ⊢
    cases hvni : b.spec.vni with
    | none =>
      rw [hvni] at hdevice
      cases hdevice
    | some vni => simpa [hvni, eq_comm] using hdevice
  | port p => cases hdevice

theorem Resource.looked_of_probe (resource : Resource) :
    ∀ call ∈ resource.probe, ∃ device ∈ resource.devices, call = .linkByName device := by
  cases resource with
  | vrf v => simp [probe, Vrf.lifecycle, devices]
  | bridge b =>
    simp only [probe, LogicalBridge.lifecycle, devices]
    cases b.spec.vni <;> simp
  | port p => simp [probe, BridgePort.lifecycle, devices]

theorem asks_probe {resource : Resource}
    (look : ∀ device ∈ resource.devices, property (.linkByName device)) (gateway : Gateway)
    (answer : Answer) :
    ((Undertaking.perform resource.probe answer gateway).plan gateway).Asks property := by
  refine asks_conclude fun call hcall => ?_
  obtain ⟨device, hdevice, rfl⟩ := resource.looked_of_probe call hcall
  exact look device hdevice

end Asks

/-! ## Setting up and taking down -/

/-- Calls that set something up. -/
def Call.setsUp : Call → Bool
  | linkAdd _ | addressAdd .. | vlanAdd .. | applyVrf _ => true
  | _ => false

/-- Calls that take something down. -/
def Call.takesDown : Call → Bool
  | linkDel _ | vlanDel .. | removeVrf _ => true
  | _ => false

theorem Call.not_takesDown_of_setsUp {call : Call} (h : call.setsUp) : call.takesDown = false := by
  cases call <;> first | rfl | exact absurd h Bool.false_ne_true

section Resources

variable {gateway : Gateway} {calls : List Call}

theorem Gateway.calls_of_realization_bridge {bridge : LogicalBridge}
    (h : gateway.realization (.bridge bridge) = .ok calls) :
    calls = bridge.realization gateway.settings := by
  change gateway.bridgeRealization bridge = .ok calls at h
  unfold Gateway.bridgeRealization at h
  split at h
  · exact (refuse_ne_ok _ _ h).elim
  · exact (Except.ok.inj h).symm

theorem Gateway.calls_of_realization_port {port : BridgePort}
    (h : gateway.realization (.port port) = .ok calls) :
    ∃ vlans, gateway.vlansOf port.spec.bridges = .ok vlans ∧
      calls = port.realization gateway.settings vlans := by
  obtain ⟨vlans, hvlans, hcalls⟩ := ok_of_bind h
  exact ⟨vlans, hvlans, (Except.ok.inj hcalls).symm⟩

theorem Resource.setsUp_of_realization {new : Resource} (h : gateway.realization new = .ok calls) :
    ∀ call ∈ calls, call.setsUp := by
  cases new with
  | vrf v =>
    obtain rfl := Except.ok.inj h
    unfold Vrf.realization Vrf.linkCalls
    cases v.spec.loopback <;> cases v.spec.vni <;> simp [Call.setsUp]
  | bridge b =>
    obtain rfl := Gateway.calls_of_realization_bridge h
    unfold LogicalBridge.realization
    cases b.spec.vni <;> simp [Call.setsUp]
  | port p =>
    obtain ⟨vlans, -, rfl⟩ := Gateway.calls_of_realization_port h
    simp [BridgePort.realization, Call.setsUp]

theorem Resource.takesDown_of_teardown (resource : Resource) (settings : Settings) :
    ∀ call ∈ resource.teardown settings, call.takesDown := by
  cases resource with
  | vrf v =>
    simp only [teardown, Vrf.teardown]
    cases v.spec.vni <;> simp [Call.takesDown]
  | bridge b =>
    simp only [teardown, LogicalBridge.teardown]
    cases b.spec.vni <;> simp [Call.takesDown]
  | port p => simp [teardown, BridgePort.teardown, Call.takesDown]

end Resources

/-! ## Backends without failures -/

/-- What a call yields when it is made to succeed; a link that was looked for is `link`. -/
def Call.success (link : LiveLink) : (call : Call) → call.Value
  | linkByName _ => link
  | linkAdd _ | linkDel _ | linkModify _ | addressAdd .. | vlanAdd .. | vlanDel .. => ()
  | applyVrf _ | removeVrf _ => ()

/-- The same backends, with success for every failure; `link` is what a look-up yields that would
fail. -/
def Backends.mended {σ : Type} (backends : Backends σ) (link : LiveLink) : Backends σ :=
  fun call state => match backends call state with
    | (.ok value, state) => (.ok value, state)
    | (.error _, state) => (.ok (call.success link), state)

theorem succeeded_of_mended {α σ : Type} (plan : Plan α) (backends : Backends σ) (link : LiveLink)
    (state : σ) : ∀ exchange ∈ plan.dialogue (backends.mended link) state, exchange.succeeded := by
  induction plan generalizing state with
  | done result => exact fun _ hmem => absurd hmem List.not_mem_nil
  | ask call next ih =>
    simp only [Interaction.dialogue, Backends.mended]
    rcases backends call state with ⟨error | reply, rest⟩ <;> intro exchange hmem <;>
      rcases List.mem_cons.mp hmem with rfl | hmem
    · rfl
    · exact ih _ rest exchange hmem
    · rfl
    · exact ih _ rest exchange hmem

/-! ## Plans that a failure ends -/

section Commits

open Interaction

variable {α σ : Type} {gateway after : Gateway} {value : α}
  {plan : Plan (Except GatewayError α × Gateway)}

/-- A failing call ends the plan with its error in the gateway as it was. When all calls succeed the
plan ends with the value in the gateway `after`. -/
inductive Commits (gateway : Gateway) (value : α) (after : Gateway) :
    Plan (Except GatewayError α × Gateway) → Prop where
  | done : Commits gateway value after (done (.ok value, after))
  | ask {call : Call} {next : call.Reply → Plan (Except GatewayError α × Gateway)}
      (failure : ∀ error, next (.error error) = .done (.error error, gateway))
      (success : ∀ reply, Commits gateway value after (next (.ok reply))) :
      Commits gateway value after (ask call next)

theorem commits_conclude (gateway : Gateway) (value : α) (after : Gateway) (calls : List Call) :
    Commits gateway value after (conclude gateway value after calls) := by
  induction calls with
  | nil => exact .done
  | cons call calls ih => exact .ask (fun error => rfl) fun reply => ih

theorem Undertaking.commits (gateway : Gateway) (undertaking : Undertaking) :
    Commits gateway undertaking.answer undertaking.after (undertaking.plan gateway) := by
  cases undertaking with
  | perform calls answer after => exact commits_conclude ..
  | renew device answer after => exact .ask (fun error => rfl) fun reply => commits_conclude ..

/-- **A run goes through all calls, or its last call fails.** In the one case the value and what was
to be written are there, in the other the error of that call, and nothing is written. -/
theorem Commits.run_cases (h : Commits gateway value after plan) (backends : Backends σ)
    (state : σ) :
    ((plan.run backends state).result = (.ok value, after) ∧
      ∀ exchange ∈ plan.dialogue backends state, exchange.succeeded) ∨
    ∃ before call error,
      (plan.run backends state).result = (.error error, gateway) ∧
      plan.dialogue backends state = before ++ [⟨call, .error error⟩] ∧
      ∀ exchange ∈ before, exchange.succeeded := by
  induction h generalizing state with
  | done => exact .inl ⟨rfl, by simp [dialogue]⟩
  | @ask call next failure success ih =>
    simp only [run, dialogue]
    rcases backends call state with ⟨error | reply, rest⟩
    · -- the failing call is the whole dialogue
      simp only [failure, run, dialogue]
      exact .inr ⟨[], call, error, rfl, rfl, by simp⟩
    · have hfirst : Exchange.succeeded ⟨call, .ok reply⟩ := rfl
      rcases ih reply rest with ⟨hresult, hall⟩ | ⟨before, last, error, hresult, hlast, hall⟩
      · refine .inl ⟨hresult, fun exchange hmem => ?_⟩
        rcases List.mem_cons.mp hmem with rfl | hmem
        · exact hfirst
        · exact hall exchange hmem
      · refine .inr ⟨⟨call, .ok reply⟩ :: before, last, error, hresult, ?_, fun exchange hmem => ?_⟩
        · rw [hlast, List.cons_append]
        · rcases List.mem_cons.mp hmem with rfl | hmem
          · exact hfirst
          · exact hall exchange hmem

/-- **The calls of a run are the first of those that are made without failures.** -/
theorem Commits.asked_prefix_mended (h : Commits gateway value after plan) (backends : Backends σ)
    (link : LiveLink) (state : σ) :
    (plan.run backends state).asked <+: (plan.run (backends.mended link) state).asked := by
  induction h generalizing state with
  | done => exact List.prefix_refl _
  | @ask call next failure success ih =>
    simp only [run, Backends.mended]
    rcases backends call state with ⟨error | reply, rest⟩
    · simp only [failure, run]
      exact List.cons_prefix_cons.mpr ⟨rfl, List.nil_prefix⟩
    · exact List.cons_prefix_cons.mpr ⟨rfl, ih reply rest⟩

theorem Commits.asked_eq_mended (h : Commits gateway value after plan) (backends : Backends σ)
    (link : LiveLink) (state : σ)
    (hall : ∀ exchange ∈ plan.dialogue backends state, exchange.succeeded) :
    (plan.run backends state).asked = (plan.run (backends.mended link) state).asked := by
  induction h generalizing state with
  | done => rfl
  | @ask call next failure success ih =>
    simp only [run, dialogue, Backends.mended] at hall ⊢
    rcases hreply : backends call state with ⟨error | reply, rest⟩
    · rw [hreply] at hall
      exact absurd (hall _ List.mem_cons_self) (by simp [Exchange.succeeded, Except.isOk,
        Except.toBool])
    · rw [hreply] at hall
      exact congrArg (call :: ·) (ih reply rest fun exchange hmem =>
        hall exchange (List.mem_cons_of_mem _ hmem))

theorem asked_conclude_mended (calls : List Call) (backends : Backends σ) (link : LiveLink)
    (state : σ) :
    ((conclude gateway value after calls).run (backends.mended link) state).asked = calls := by
  induction calls generalizing state with
  | nil => rfl
  | cons call calls ih =>
    simp only [conclude, run, Backends.mended]
    rcases backends call state with ⟨_ | _, rest⟩ <;> exact congrArg (call :: ·) (ih rest)

theorem asked_conclude_prefix (calls : List Call) (backends : Backends σ) (state : σ) :
    ((conclude gateway value after calls).run backends state).asked <+: calls := by
  have h := (commits_conclude gateway value after calls).asked_prefix_mended backends
    { name := "" } state
  rwa [asked_conclude_mended] at h

end Commits

/-! ## Serving a request -/

namespace Gateway

variable {σ : Type} {gateway : Gateway} {draw : Draw} {request : Request} {error : GatewayError}
  {undertaking : Undertaking}

/-- The exchanges with the backends while a request is served. -/
def exchanges (backends : Backends σ) (gateway : Gateway) (draw : Draw) (request : Request)
    (state : σ) : List (Exchange Call Call.Reply) :=
  ((serve draw request).plan gateway).dialogue backends state

theorem questions_exchanges (backends : Backends σ) (gateway : Gateway) (draw : Draw)
    (request : Request) (state : σ) :
    (gateway.exchanges backends draw request state).map Exchange.question =
      (gateway.step backends draw request state).calls :=
  Interaction.questions_dialogue ..

theorem step_refused (backends : Backends σ) (state : σ)
    (h : gateway.decide draw (gateway.intent draw request) = .error error) :
    gateway.step backends draw request state = ⟨.error error, [], gateway, state⟩ := by
  rw [step, serve_plan, h]
  rfl

theorem exchanges_refused (backends : Backends σ) (state : σ)
    (h : gateway.decide draw (gateway.intent draw request) = .error error) :
    gateway.exchanges backends draw request state = [] := by
  rw [exchanges, serve_plan, h]
  rfl

theorem step_undertaken (backends : Backends σ) (state : σ)
    (h : gateway.decide draw (gateway.intent draw request) = .ok undertaking) :
    gateway.step backends draw request state =
      let outcome := (undertaking.plan gateway).run backends state
      ⟨outcome.result.1, outcome.asked, outcome.result.2, outcome.state⟩ := by
  rw [step, serve_plan, h]
  rfl

theorem exchanges_undertaken (backends : Backends σ) (state : σ)
    (h : gateway.decide draw (gateway.intent draw request) = .ok undertaking) :
    gateway.exchanges backends draw request state =
      (undertaking.plan gateway).dialogue backends state := by
  rw [exchanges, serve_plan, h]
  rfl

/-- What serving a request over backends comes to. -/
inductive Served.Course (gateway : Gateway) (draw : Draw) (request : Request)
    (served : Served σ) (exchanges : List (Exchange Call Call.Reply)) : Prop where
  /-- No call is made. -/
  | refused (error : GatewayError)
      (decision : gateway.decide draw (gateway.intent draw request) = .error error)
      (answer : served.answer = .error error) (same : served.gateway = gateway)
      (silent : exchanges = [])
  /-- The last call fails. -/
  | failed (undertaking : Undertaking) (before : List (Exchange Call Call.Reply)) (call : Call)
      (error : GatewayError)
      (decision : gateway.decide draw (gateway.intent draw request) = .ok undertaking)
      (answer : served.answer = .error error) (same : served.gateway = gateway)
      (last : exchanges = before ++ [⟨call, .error error⟩])
      (passed : ∀ exchange ∈ before, exchange.succeeded)
  /-- Every call succeeds. -/
  | done (undertaking : Undertaking)
      (decision : gateway.decide draw (gateway.intent draw request) = .ok undertaking)
      (answer : served.answer = .ok undertaking.answer) (after : served.gateway = undertaking.after)
      (passed : ∀ exchange ∈ exchanges, exchange.succeeded)

/-- **A request is refused, or its last call fails, or all goes well.** -/
theorem step_course (backends : Backends σ) (gateway : Gateway) (draw : Draw) (request : Request)
    (state : σ) :
    (gateway.step backends draw request state).Course gateway draw request
      (gateway.exchanges backends draw request state) := by
  cases hdecision : gateway.decide draw (gateway.intent draw request) with
  | error error =>
    rw [step_refused backends state hdecision, exchanges_refused backends state hdecision]
    exact .refused error hdecision rfl rfl rfl
  | ok undertaking =>
    rw [step_undertaken backends state hdecision, exchanges_undertaken backends state hdecision]
    rcases (undertaking.commits gateway).run_cases backends state with
      ⟨hresult, hall⟩ | ⟨before, call, error, hresult, hlast, hall⟩
    · exact .done undertaking hdecision (congrArg Prod.fst hresult) (congrArg Prod.snd hresult) hall
    · exact .failed undertaking before call error hdecision (congrArg Prod.fst hresult)
        (congrArg Prod.snd hresult) hlast hall

theorem step_passed {backends : Backends σ} {state : σ}
    (h : gateway.decide draw (gateway.intent draw request) = .ok undertaking)
    (hall : ∀ exchange ∈ gateway.exchanges backends draw request state, exchange.succeeded) :
    (gateway.step backends draw request state).answer = .ok undertaking.answer ∧
      (gateway.step backends draw request state).gateway = undertaking.after := by
  rw [exchanges_undertaken backends state h] at hall
  rw [step_undertaken backends state h]
  rcases (undertaking.commits gateway).run_cases backends state with
    ⟨hresult, -⟩ | ⟨before, call, error, -, hlast, -⟩
  · exact ⟨congrArg Prod.fst hresult, congrArg Prod.snd hresult⟩
  · rw [hlast] at hall
    exact nomatch hall _ (List.mem_append_right before (List.mem_singleton_self _))

theorem step_mended (backends : Backends σ) (link : LiveLink) (state : σ)
    (h : gateway.decide draw (gateway.intent draw request) = .ok undertaking) :
    (gateway.step (backends.mended link) draw request state).answer = .ok undertaking.answer ∧
      (gateway.step (backends.mended link) draw request state).gateway = undertaking.after :=
  step_passed h (succeeded_of_mended _ backends link state)

end Gateway

end EvpnGateway
