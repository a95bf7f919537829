import EvpnGateway.Backend.Tools
import EvpnGateway.Proofs.Commit
import EvpnGateway.Shell.Script
/-!
# Calls as commands

Over backends made of command line tools every call is a row of steps, each with a command of its
own. A request to create or to delete goes through the steps of its calls, up to the first command
that fails.

* `Step`, `Call.steps`: the commands behind a call and the errors that their failures become;
* `performSteps`, **`translate_conclude`**: the calls of a request become the steps of all of them;
* `Attempt`, `attempts`: what is tried, step by step; **`run_performSteps`**: all steps pass, or the
  last that was tried fails;
* `run_tools`: a run over the tools is a run of the commands;
* **`Gateway.commands_refine_calls`**.
-/

namespace EvpnGateway

open Interaction (done ask)

/-! ## Steps -/

/-- A step of a call: its command, and what an error of the command becomes. -/
structure Step where
  command : Command
  failure : GatewayError → GatewayError

namespace Step

/-- A step on a link. -/
def link (operation : String) (command : Command) : Step :=
  ⟨command, fun error => .link operation error.message⟩

/-- The step of the routing daemon, for a VRF that is attached to the fabric. -/
def routing (operation : String) (vrf : VrfRouting) (lines : Vni → List String) : List Step :=
  match vrf.vni with
  | some vni => [⟨Command.configure (lines vni), fun error => .routing operation error.message⟩]
  | none => []

/-- An error of the step is told with its operation: as one of routing if the command is for the
routing daemon, else as one of a link. -/
def Labelled (step : Step) : Prop :=
  ∃ operation, ∀ error, step.failure error =
    if step.command.head? = some (.plain Command.vtysh) then .routing operation error.message
    else .link operation error.message

end Step

/-- The steps of a call: most have one; a new link is created, put under its master and brought
up. -/
def Call.steps : Call → List Step
  | linkAdd spec =>
    let enslave := match spec.master with
      | some master => [Step.link "link set master" (Command.linkSetMaster spec.name master)]
      | none => []
    Step.link "link add" (Command.linkAdd spec) :: enslave ++
      [Step.link "link set up" (Command.linkSetUp spec.name)]
  | linkDel name => [.link "link del" (Command.linkDel name)]
  | linkByName name => [{
      command := Command.linkShow name
      failure := fun
        | .commandFailed .. => .notFound name
        | error => error }]
  | linkModify link => [.link "link modify" (Command.linkSetUp link.name)]
  | addressAdd name address => [.link "address add" (Command.addressAdd name address)]
  | vlanAdd device vlan tagging onBridge =>
    [.link "bridge vlan add" (Command.vlanAdd device vlan tagging onBridge)]
  | vlanDel device vlan onBridge =>
    [.link "bridge vlan del" (Command.vlanDel device vlan onBridge)]
  | applyVrf vrf => Step.routing "apply vrf" vrf vrf.applyLines
  | removeVrf vrf => Step.routing "remove vrf" vrf vrf.removeLines

/-! ## Calls in steps -/

section Steps

variable {α β : Type} {gateway after : Gateway} {value : α} {call : Call} {calls : List Call}

theorem labelled_of_mem_steps {step : Step} (h : call.setsUp ∨ call.takesDown)
    (hmem : step ∈ call.steps) : step.Labelled := by
  cases call with
  | linkByName | linkModify => exact absurd h (by simp [Call.setsUp, Call.takesDown])
  | linkAdd spec =>
    simp only [Call.steps, List.cons_append, List.mem_cons, List.mem_append] at hmem
    rcases hmem with rfl | hmaster | rfl | hnone
    · exact ⟨"link add", fun _ => rfl⟩
    · cases hspec : spec.master with
      | none => simp [hspec] at hmaster
      | some master =>
        simp only [hspec, List.mem_singleton] at hmaster
        exact hmaster ▸ ⟨"link set master", fun _ => rfl⟩
    · exact ⟨"link set up", fun _ => rfl⟩
    · exact absurd hnone List.not_mem_nil
  | linkDel | addressAdd | vlanAdd | vlanDel =>
    exact List.mem_singleton.mp hmem ▸ ⟨_, fun _ => rfl⟩
  | applyVrf vrf | removeVrf vrf =>
    simp only [Call.steps, Step.routing] at hmem
    cases hvni : vrf.vni with
    | none => simp [hvni] at hmem
    | some vni =>
      simp only [hvni, List.mem_singleton] at hmem
      exact hmem ▸ ⟨_, fun _ => rfl⟩

/-- Takes steps one after the other, up to the first that fails. -/
def performSteps : List Step → Shell (Except GatewayError Unit)
  | [] => done (.ok ())
  | step :: steps => executeChecked step.command.text >>= fun
    | .ok _ => performSteps steps
    | .error error => done (.error (step.failure error))

/-- Goes on behind steps that all passed; an error is the end. -/
def onSuccess (next : Shell α) (failed : GatewayError → α) : Except GatewayError Unit → Shell α
  | .ok () => next
  | .error error => done (failed error)

theorem performSteps_append (first second : List Step) :
    performSteps (first ++ second) =
      performSteps first >>= onSuccess (performSteps second) .error := by
  induction first with
  | nil => rfl
  | cons step rest ih =>
    simp only [List.cons_append, performSteps]
    rw [Interaction.bind_assoc, ih]
    refine congrArg (executeChecked step.command.text >>= ·) (funext fun result => ?_)
    cases result <;> rfl

theorem step_eq_performSteps (label : String → GatewayError) (command : Command) :
    Tools.step label command = performSteps [⟨command, fun error => label error.message⟩] := by
  refine congrArg (executeChecked command.text >>= ·) (funext fun result => ?_)
  cases result <;> rfl

theorem performSteps_bind (steps : List Step) (next : ExceptT GatewayError Shell Unit) :
    ((performSteps steps : ExceptT GatewayError Shell Unit) >>= fun _ => next :
      ExceptT GatewayError Shell Unit) = performSteps steps >>= onSuccess next .error := by
  refine congrArg (performSteps steps >>= ·) (funext fun result => ?_)
  cases result <;> rfl

theorem linkAdd_eq_performSteps (spec : LinkSpec) :
    Tools.linkAdd spec = performSteps (Call.linkAdd spec).steps := by
  unfold Tools.linkAdd Tools.linkStep
  simp only [Call.steps, step_eq_performSteps]
  cases spec.master with
  | none =>
    rw [performSteps_bind]
    exact (performSteps_append [_] [_]).symm
  | some master =>
    dsimp only
    rw [performSteps_bind, performSteps_bind, List.cons_append, ← performSteps_append]
    exact (performSteps_append [_] _).symm

theorem routing_eq_performSteps (operation : String) (vrf : VrfRouting)
    (lines : Vni → List String) :
    Tools.routing operation vrf lines = performSteps (Step.routing operation vrf lines) := by
  unfold Tools.routing Step.routing
  cases vrf.vni with
  | none => rfl
  | some vni => exact step_eq_performSteps _ _

theorem bind_performSteps {reply : Shell (Except GatewayError Unit)} {steps : List Step}
    {next : Except GatewayError Unit → Shell β} {rest : Shell β} {failed : GatewayError → β}
    (h : reply = performSteps steps) (success : next (.ok ()) = rest)
    (failure : ∀ error, next (.error error) = done (failed error)) :
    reply.bind next = performSteps steps >>= onSuccess rest failed := by
  rw [h]
  refine congrArg (performSteps _ >>= ·) (funext fun result => ?_)
  cases result with
  | ok => exact success
  | error error => exact failure error

theorem translate_conclude_cons (h : call.setsUp ∨ call.takesDown) :
    (conclude gateway value after (call :: calls)).translate Tools.reply =
      performSteps call.steps >>= onSuccess
        ((conclude gateway value after calls).translate Tools.reply)
        fun error => (.error error, gateway) := by
  rw [conclude, Interaction.translate]
  cases call with
  | linkByName | linkModify => exact absurd h (by simp [Call.setsUp, Call.takesDown])
  | linkAdd spec => exact bind_performSteps (linkAdd_eq_performSteps spec) rfl fun _ => rfl
  | linkDel name =>
    exact bind_performSteps (step_eq_performSteps _ (Command.linkDel name)) rfl fun _ => rfl
  | addressAdd name address =>
    exact bind_performSteps (step_eq_performSteps _ (Command.addressAdd name address)) rfl
      fun _ => rfl
  | vlanAdd device vlan tagging onBridge =>
    exact bind_performSteps
      (step_eq_performSteps _ (Command.vlanAdd device vlan tagging onBridge)) rfl fun _ => rfl
  | vlanDel device vlan onBridge =>
    exact bind_performSteps (step_eq_performSteps _ (Command.vlanDel device vlan onBridge)) rfl
      fun _ => rfl
  | applyVrf | removeVrf => exact bind_performSteps (routing_eq_performSteps ..) rfl fun _ => rfl

/-- **Calls become the steps of all of them.** -/
theorem translate_conclude (h : ∀ call ∈ calls, call.setsUp ∨ call.takesDown) :
    (conclude gateway value after calls).translate Tools.reply =
      performSteps (calls.flatMap Call.steps) >>= onSuccess (done (.ok value, after))
        fun error => (.error error, gateway) := by
  induction calls with
  | nil => rfl
  | cons call rest ih =>
    rw [translate_conclude_cons (h call List.mem_cons_self), List.flatMap_cons,
      performSteps_append, Interaction.bind_assoc,
      ih fun other hmem => h other (List.mem_cons_of_mem _ hmem)]
    refine congrArg (performSteps _ >>= ·) (funext fun result => ?_)
    cases result <;> rfl

end Steps

/-! ## Attempts -/

/-- A step that was tried, and how its command came out. -/
structure Attempt where
  step : Step
  report : ProcessReport

namespace Attempt

/-- The command was started and exited with zero. -/
def passed (attempt : Attempt) : Bool :=
  match attempt.report with
  | .exited code _ _ => code == 0
  | .notStarted _ | .killed .. => false

/-- The output of the command, or its error. -/
def outcome (attempt : Attempt) : Except GatewayError String :=
  (attempt.report.result attempt.step.command.text).bind
    (CommandResult.toStdout attempt.step.command.text)

theorem outcome_of_passed {attempt : Attempt} (h : attempt.passed) :
    ∃ output, attempt.outcome = .ok output := by
  obtain ⟨step, report⟩ := attempt
  cases report with
  | notStarted | killed => exact nomatch h
  | exited code stdout stderr =>
    exact ⟨outputText stdout, if_pos h⟩

theorem outcome_of_not_passed {attempt : Attempt} (h : attempt.passed = false) :
    ∃ error, attempt.outcome = .error error := by
  obtain ⟨step, report⟩ := attempt
  cases report with
  | notStarted reason => exact ⟨_, rfl⟩
  | killed signal stdout stderr => exact ⟨_, rfl⟩
  | exited code stdout stderr =>
    exact ⟨_, if_neg (Bool.eq_false_iff.mp h)⟩

end Attempt

section Attempts

variable {σ α : Type} (run : Interaction.Handler String (fun _ => ProcessReport) σ)

/-- A command can be handed to a process unless there is a null character in it. -/
def isStartable (command : String) : Bool := ¬ command.toList.any fun c => c.toNat = 0

/-- How a command comes out. One that cannot be handed to a process is not started. -/
def start (command : String) (state : σ) : ProcessReport × σ :=
  if isStartable command then run command state
  else (.notStarted "nul byte found in provided data", state)

/-- What is tried of some steps: all of them, or those up to the first that fails. -/
def attempts : List Step → σ → List Attempt
  | [], _ => []
  | step :: steps, state =>
    let (report, rest) := start run step.command.text state
    let attempt : Attempt := ⟨step, report⟩
    attempt :: if attempt.passed then attempts steps rest else []

theorem run_executeChecked (step : Step) (state : σ) :
    (executeChecked step.command.text).run run state =
      let (report, rest) := start run step.command.text state
      ⟨Attempt.outcome ⟨step, report⟩, [step.command.text].filter isStartable, rest⟩ := by
  unfold executeChecked execute start
  by_cases hnull : (step.command.text.toList.any fun c => c.toNat = 0) = true
  · simp [hnull, isStartable, Interaction.run, Attempt.outcome, ProcessReport.result]
  · simp [hnull, isStartable, Interaction.run, Attempt.outcome]

/-- What is tried is the beginning of the steps; all of it passed but the last. -/
theorem attempts_prefix (steps : List Step) (state : σ) :
    (attempts run steps state).map Attempt.step <+: steps := by
  induction steps generalizing state with
  | nil => exact List.prefix_refl _
  | cons step rest ih =>
    simp only [attempts, List.map_cons]
    refine List.cons_prefix_cons.mpr ⟨rfl, ?_⟩
    split_ifs
    · exact ih _
    · exact List.nil_prefix

/-- **All steps pass, or the last that is tried fails.** -/
theorem run_performSteps (steps : List Step) (state : σ) :
    ((performSteps steps).run run state).asked =
        ((attempts run steps state).map fun attempt => attempt.step.command.text).filter
          isStartable ∧
      (((performSteps steps).run run state).result = .ok () ∧
          (attempts run steps state).map Attempt.step = steps ∧
          (∀ attempt ∈ attempts run steps state, attempt.passed) ∨
        ∃ before last error, ((performSteps steps).run run state).result =
            .error (last.step.failure error) ∧
          attempts run steps state = before ++ [last] ∧ (∀ attempt ∈ before, attempt.passed) ∧
          last.passed = false ∧ last.outcome = .error error) := by
  induction steps generalizing state with
  | nil => exact ⟨rfl, .inl ⟨rfl, rfl, fun _ hmem => absurd hmem List.not_mem_nil⟩⟩
  | cons step steps ih =>
    simp only [performSteps, Interaction.run_bind, run_executeChecked, attempts]
    generalize start run step.command.text state = started
    obtain ⟨report, rest⟩ := started
    set attempt : Attempt := ⟨step, report⟩
    cases hpassed : attempt.passed with
    | true =>
      obtain ⟨output, houtcome⟩ := attempt.outcome_of_passed hpassed
      obtain ⟨hasked, hresult⟩ := ih rest
      simp only [houtcome, if_true, List.map_cons]
      refine ⟨?_, ?_⟩
      · rw [hasked, ← List.filter_append]
        rfl
      rcases hresult with ⟨hok, hall, hpass⟩ |
        ⟨before, last, error, herror, hlast, hpass, hfailed⟩
      · exact .inl ⟨hok, congrArg _ hall, List.forall_mem_cons.mpr ⟨hpassed, hpass⟩⟩
      · exact .inr ⟨attempt :: before, last, error, herror, congrArg _ hlast,
          List.forall_mem_cons.mpr ⟨hpassed, hpass⟩, hfailed⟩
    | false =>
      obtain ⟨error, houtcome⟩ := attempt.outcome_of_not_passed hpassed
      simp only [houtcome, Interaction.run, Bool.false_eq_true, if_false, List.append_nil]
      exact ⟨rfl, .inr ⟨[], attempt, error, rfl, rfl, fun _ hmem => absurd hmem List.not_mem_nil,
        hpassed, houtcome⟩⟩

/-- **A run over the tools is a run of the commands**, which are recorded. -/
theorem run_tools (plan : Plan α) (state : σ) (commands : List String) :
    (plan.run (Tools.backends run) (state, commands)).result =
        ((plan.translate Tools.reply).run run state).result ∧
      (plan.run (Tools.backends run) (state, commands)).state =
        (((plan.translate Tools.reply).run run state).state,
          commands ++ ((plan.translate Tools.reply).run run state).asked) := by
  induction plan generalizing state commands with
  | done result => exact ⟨rfl, by simp [Interaction.run, Interaction.translate]⟩
  | ask call next ih =>
    have hask : (ask call next).translate Tools.reply =
        (Tools.reply call >>= fun answer => (next answer).translate Tools.reply) := rfl
    rw [hask, Interaction.run_bind]
    simp only [Interaction.run, Tools.backends]
    obtain ⟨hresult, hstate⟩ := ih ((Tools.reply call).run run state).result
      ((Tools.reply call).run run state).state
      (commands ++ ((Tools.reply call).run run state).asked)
    exact ⟨hresult, by rw [hstate, List.append_assoc]⟩

/-- A row of calls over the tools: all of their steps pass, or the last that is tried fails and
nothing is written. -/
theorem run_conclude_tools (gateway : Gateway) (value : α) (after : Gateway) {calls : List Call}
    (h : ∀ call ∈ calls, call.setsUp ∨ call.takesDown) (state : σ) :
    let outcome := (conclude gateway value after calls).run (Tools.backends run) (state, [])
    let steps := calls.flatMap Call.steps
    let tried := attempts run steps state
    outcome.state.2 = (tried.map fun attempt => attempt.step.command.text).filter isStartable ∧
      (outcome.result = (.ok value, after) ∧ tried.map Attempt.step = steps ∧
          (∀ attempt ∈ tried, attempt.passed) ∨
        ∃ before last error, outcome.result = (.error (last.step.failure error), gateway) ∧
          tried = before ++ [last] ∧ (∀ attempt ∈ before, attempt.passed) ∧
          last.passed = false ∧ last.outcome = .error error) := by
  intro outcome steps tried
  obtain ⟨hresult, hstate⟩ := run_tools run (conclude gateway value after calls) state []
  rw [translate_conclude h, Interaction.run_bind] at hresult hstate
  obtain ⟨hasked, hcourse⟩ := run_performSteps run (calls.flatMap Call.steps) state
  rcases hcourse with ⟨hok, hall, hpass⟩ | ⟨before, last, error, herror, hlast, hpass, hfailed⟩
  · simp only [hok, onSuccess, Interaction.run, List.append_nil, List.nil_append, hasked]
      at hresult hstate
    exact ⟨congrArg Prod.snd hstate, .inl ⟨hresult, hall, hpass⟩⟩
  · simp only [herror, onSuccess, Interaction.run, List.append_nil, List.nil_append, hasked]
      at hresult hstate
    exact ⟨congrArg Prod.snd hstate, .inr ⟨before, last, error, hresult, hlast, hpass, hfailed⟩⟩

end Attempts

/-! ## Requests over the tools -/

/-- A request to create or to delete a resource. -/
def Request.createsOrDeletes : Request → Bool
  | createVrf .. | createBridge .. | createPort .. => true
  | deleteVrf _ | deleteBridge _ | deletePort _ => true
  | _ => false

namespace Gateway

variable {σ : Type} {gateway : Gateway} {draw : Draw} {request : Request}
  {undertaking : Undertaking}

theorem decide_createsOrDeletes (h : request.createsOrDeletes)
    (hdecision : gateway.decide draw (gateway.intent draw request) = .ok undertaking) :
    ∃ calls answer after, undertaking = .perform calls answer after ∧
      ∀ call ∈ calls, call.setsUp ∨ call.takesDown := by
  have hintent : (∃ check new, gateway.intent draw request = .create check new) ∨
      ∃ kind deletion, gateway.intent draw request = .delete kind deletion := by
    cases request <;>
      first | exact .inl ⟨_, _, rfl⟩ | exact .inr ⟨_, _, rfl⟩ | exact absurd h Bool.false_ne_true
  rcases hintent with ⟨check, new, hcreate⟩ | ⟨kind, deletion, hdelete⟩
  · rw [hcreate] at hdecision
    obtain ⟨-, ⟨existing, -, rfl⟩ | ⟨-, calls, hcalls, rfl⟩⟩ := decide_create hdecision
    · exact ⟨_, _, _, rfl, fun _ hmem => absurd hmem List.not_mem_nil⟩
    · exact ⟨_, _, _, rfl, fun call hmem =>
        .inl (Resource.setsUp_of_realization hcalls call hmem)⟩
  · rw [hdelete] at hdecision
    obtain ⟨existing, -, rfl⟩ | ⟨-, rfl⟩ := decide_delete hdecision
    · exact ⟨_, _, _, rfl, fun call hmem =>
        .inr (existing.takesDown_of_teardown gateway.settings call hmem)⟩
    · exact ⟨_, _, _, rfl, fun _ hmem => absurd hmem List.not_mem_nil⟩

/-- What is undertaken over the tools goes through the steps of its calls. -/
theorem step_tools (run : Interaction.Handler String (fun _ => ProcessReport) σ) (state : σ)
    {calls : List Call} {answer : Answer} {after : Gateway}
    (hdecision : gateway.decide draw (gateway.intent draw request) =
      .ok (.perform calls answer after))
    (hcalls : ∀ call ∈ calls, call.setsUp ∨ call.takesDown) :
    let served := gateway.step (Tools.backends run) draw request (state, [])
    let steps := calls.flatMap Call.steps
    let tried := attempts run steps state
    served.backends.2 =
        (tried.map fun attempt => attempt.step.command.text).filter isStartable ∧
      (served.answer = .ok answer ∧ served.gateway = after ∧ tried.map Attempt.step = steps ∧
          (∀ attempt ∈ tried, attempt.passed) ∨
        ∃ before last error, served.answer = .error (last.step.failure error) ∧
          served.gateway = gateway ∧ tried = before ++ [last] ∧
          (∀ attempt ∈ before, attempt.passed) ∧ last.passed = false ∧
          last.outcome = .error error) := by
  obtain ⟨hrecord, hcourse⟩ := run_conclude_tools run gateway answer after hcalls state
  rw [step_undertaken (Tools.backends run) (state, []) hdecision]
  refine ⟨hrecord, ?_⟩
  rcases hcourse with ⟨hresult, hall⟩ | ⟨before, last, error, hresult, hlast⟩
  · exact .inl ⟨congrArg Prod.fst hresult, congrArg Prod.snd hresult, hall⟩
  · exact .inr ⟨before, last, error, congrArg Prod.fst hresult, congrArg Prod.snd hresult, hlast⟩

/-- **Commands do what calls are for.** Take the calls that a request to create or to delete makes
if nothing fails, and all their steps. Over the tools the commands of these steps are attempted, up
to the first that does not start or does not exit with zero; what is recorded of them is all but one
that no process could be started for. If none fails the answer and the gateway after it are those of
the run without failures; otherwise the answer is the error of the failing step, with its operation,
and the gateway is as it was. So a request that is not refused beforehand succeeds if and only if no
command fails. -/
theorem commands_refine_calls (run : Interaction.Handler String (fun _ => ProcessReport) σ)
    (gateway : Gateway) (draw : Draw) (request : Request) (state : σ) (link : LiveLink)
    (h : request.createsOrDeletes) :
    let served := gateway.step (Tools.backends run) draw request (state, [])
    let smooth := gateway.step ((Tools.backends run).mended link) draw request (state, [])
    let steps := smooth.calls.flatMap Call.steps
    let tried := attempts run steps state
    (tried.map Attempt.step <+: steps ∧ (∀ attempt ∈ tried.dropLast, attempt.passed) ∧
      served.backends.2 =
        (tried.map fun attempt => attempt.step.command.text).filter isStartable) ∧
    ((∀ attempt ∈ tried, attempt.passed) → tried.map Attempt.step = steps ∧
      served.answer = smooth.answer ∧ served.gateway = smooth.gateway) ∧
    (∀ attempt ∈ tried, attempt.passed = false → attempt.step.Labelled ∧
      ∃ error, attempt.outcome = .error error ∧
        served.answer = .error (attempt.step.failure error) ∧ served.gateway = gateway) ∧
    (∀ error, smooth.answer = .error error → smooth.calls = [] ∧ smooth.gateway = gateway) ∧
    ((∃ answer, served.answer = .ok answer) ↔
      (∃ answer, smooth.answer = .ok answer) ∧ ∀ attempt ∈ tried, attempt.passed) := by
  dsimp only
  cases hdecision : gateway.decide draw (gateway.intent draw request) with
  | error error =>
    rw [step_refused (Tools.backends run) _ hdecision, step_refused _ _ hdecision]
    simp [attempts]
  | ok undertaking =>
    obtain ⟨calls, answer, after, rfl, hcalls⟩ := decide_createsOrDeletes h hdecision
    have hbegin := attempts_prefix run (calls.flatMap Call.steps) state
    obtain ⟨hrecord, hcourse⟩ := step_tools run state hdecision hcalls
    obtain ⟨hanswer, hafter⟩ := step_mended (Tools.backends run) link (state, []) hdecision
    rw [(step_perform (Tools.backends run) (state, []) link hdecision).1, hanswer, hafter]
    generalize attempts run (calls.flatMap Call.steps) state = tried at hbegin hrecord hcourse ⊢
    rcases hcourse with ⟨hok, hdone, hall, hpass⟩ |
      ⟨before, last, error, herror, hsame, rfl, hpass, hfailed, houtcome⟩
    · refine ⟨⟨hbegin, fun attempt hmem => hpass attempt (List.mem_of_mem_dropLast hmem), hrecord⟩,
        fun _ => ⟨hall, hok, hdone⟩, fun attempt hmem hfailed => ?_, nofun, ?_⟩
      · exact nomatch hfailed.symm.trans (hpass attempt hmem)
      · exact ⟨fun _ => ⟨⟨_, rfl⟩, hpass⟩, fun _ => ⟨_, hok⟩⟩
    · have hlast : ¬ ∀ attempt ∈ before ++ [last], attempt.passed := fun hall =>
        nomatch hfailed.symm.trans (hall last (List.mem_append_right _ (List.mem_singleton_self _)))
      refine ⟨⟨hbegin, ?_, hrecord⟩, fun hall => absurd hall hlast, fun attempt hmem hfail => ?_,
        nofun, ?_⟩
      · rw [List.dropLast_concat]
        exact hpass
      · rcases List.mem_append.mp hmem with hmem | hmem
        · exact nomatch hfail.symm.trans (hpass attempt hmem)
        · obtain rfl := List.mem_singleton.mp hmem
          obtain ⟨call, hcall, hstep⟩ := List.mem_flatMap.mp
            (hbegin.subset (List.mem_map_of_mem (List.mem_append_right before hmem)))
          exact ⟨labelled_of_mem_steps (hcalls call hcall) hstep, error, houtcome, herror, hsame⟩
      · constructor
        · rintro ⟨answer, hok⟩
          exact nomatch herror.symm.trans hok
        · exact fun hsmooth => absurd hsmooth.2 hlast

/-- A bridge whose VXLAN device cannot be put under the tenant bridge. -/
theorem commands_refine_calls_blue :
    let draw : Draw := ⟨⟨0, 0⟩, .zero, ⟨0, 0⟩⟩
    let vlan : VlanId := ⟨10, by decide, by decide⟩
    let create : Request := .createBridge "blue" { spec := { vni := some ⟨100, by decide⟩, vlan } }
    let script : Script := [{ pattern := "master", report := .killed 9 [] [] }]
    let served := ({} : Gateway).step (Tools.backends Script.handler) draw create (script, [])
    create.createsOrDeletes ∧
      served.backends.2 = [
        "/sbin/bridge vlan add vid 10 dev \"br-tenant\" self",
        "/sbin/ip link add \"vni100\" type vxlan id 100 dstport 4789 nolearning",
        "/sbin/ip link set \"vni100\" master \"br-tenant\""] ∧
      (∃ error, served.answer = .error error) ∧ served.gateway = {} := by
  intro draw vlan create script served
  have hrefine := commands_refine_calls Script.handler {} draw create script { name := "" } rfl
  let smooth := ({} : Gateway).step ((Tools.backends Script.handler).mended { name := "" }) draw
    create (script, [])
  have hfailed : ¬ ∀ attempt ∈ attempts Script.handler (smooth.calls.flatMap Call.steps) script,
      attempt.passed = true := by decide +kernel
  push Not at hfailed
  obtain ⟨attempt, hmem, hattempt⟩ := hfailed
  obtain ⟨-, error, -, hanswer, hsame⟩ := hrefine.2.2.1 attempt hmem (by simpa using hattempt)
  exact ⟨rfl, by decide +kernel, ⟨_, hanswer⟩, hsame⟩

end Gateway

end EvpnGateway
