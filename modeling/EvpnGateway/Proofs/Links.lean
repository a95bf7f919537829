import EvpnGateway.Backend.Simulation
import EvpnGateway.Proofs.Exchanges
/-!
# Links of a simulated kernel

What calls do to the links of a kernel. Calls that are made to fail leave the links alone.

* `Simulation.Reliable`, `Simulation.cleared`, `Simulation.Live`; `link?_put`, `link?_drop`;
* `Call.added?`, `Call.removed?`, `Exchange.Creates`, `Exchange.Deletes`: the link that a call is to
  create or delete, and exchanges that did so;
* `backends_cases`: a call is made to fail, or it is answered by the kernel; `backends_error`: calls
  that fail change nothing;
* **`live_of_kept`**, **`gone_of_deletes`**: links that plans keep and delete, whatever fails;
  `live_of_asks`: plans that delete no links keep the live ones;
* **`run_setUp`**: links that were set up are new, distinct and live, whatever else failed;
* **`run_takeDown`**: where nothing fails live links can be taken down, and no others vanish;
* `run_probe`: there looking for live links succeeds and changes nothing.
-/

namespace EvpnGateway

open Interaction (done ask)

namespace Simulation

variable {simulation : Simulation} {name : String}

/-- Nothing is made to fail. -/
structure Reliable (simulation : Simulation) : Prop where
  faults : simulation.faults = []
  routing : simulation.routingDown = false

/-- The same kernel, with nothing made to fail any more. -/
def cleared (simulation : Simulation) : Simulation :=
  { simulation with faults := [], routingDown := false }

theorem reliable_cleared (simulation : Simulation) : simulation.cleared.Reliable := ⟨rfl, rfl⟩

/-- A link of the name is live. -/
def Live (simulation : Simulation) (name : String) : Prop := (simulation.link? name).isSome

instance : Decidable (simulation.Live name) := inferInstanceAs (Decidable (_ = true))

theorem link?_drop (simulation : Simulation) (gone name : String) :
    (simulation.drop gone).link? name = if gone = name then none else simulation.link? name := by
  simp only [link?, drop, List.find?_filter]
  split_ifs with hsame
  · rw [List.find?_eq_none]
    intro link _
    simp [hsame]
  · congr 1
    funext link
    by_cases hname : link.name = name
    · simp [hname, Ne.symm hsame]
    · simp [hname]

theorem link?_put (simulation : Simulation) (link : LiveLink) (name : String) :
    (simulation.put link).link? name =
      if link.name = name then some link else simulation.link? name := by
  have hrest : (simulation.put link).link? name =
      if link.name = name then some link else (simulation.drop link.name).link? name := by
    simp only [link?, put, List.find?_cons]
    by_cases hname : link.name = name
    · simp [hname]
    · rw [if_neg hname, beq_false_of_ne hname]
  rw [hrest, link?_drop]
  split_ifs <;> rfl

theorem Live.put (h : simulation.Live name) (link : LiveLink) :
    (simulation.put link).Live name := by
  unfold Live at h ⊢
  rw [link?_put]
  split_ifs
  · rfl
  · exact h

theorem Reliable.put (h : simulation.Reliable) (link : LiveLink) :
    (simulation.put link).Reliable := ⟨h.faults, h.routing⟩

/-! ## Single calls -/

theorem Reliable.backends_eq (h : simulation.Reliable) (call : Call) :
    backends call simulation = perform call simulation := by
  obtain ⟨links, created, faults, routingDown⟩ := simulation
  obtain ⟨rfl, rfl⟩ := h
  cases call <;> rfl

theorem Reliable.perform (h : simulation.Reliable) (call : Call) :
    (perform call simulation).2.Reliable := by
  cases call <;> simp only [Simulation.perform]
  case linkAdd spec => split_ifs <;> exact ⟨h.faults, h.routing⟩
  case linkDel name => split_ifs <;> exact ⟨h.faults, h.routing⟩
  case linkByName name => cases simulation.link? name <;> exact h
  all_goals exact h

end Simulation

/-- The link that a call creates. -/
def Call.added? : Call → Option String
  | linkAdd spec => some spec.name
  | _ => none

/-- The link that a call deletes. -/
def Call.removed? : Call → Option String
  | linkDel name => some name
  | _ => none

namespace Exchange

/-- A link was created. -/
def Creates (name : String) (exchange : Exchange Call Call.Reply) : Prop :=
  exchange.succeeded ∧ exchange.question.added? = some name

/-- A link was deleted. -/
def Deletes (name : String) (exchange : Exchange Call Call.Reply) : Prop :=
  exchange.succeeded ∧ exchange.question.removed? = some name

instance (name : String) (exchange : Exchange Call Call.Reply) :
    Decidable (exchange.Creates name) := inferInstanceAs (Decidable (_ ∧ _))

instance (name : String) (exchange : Exchange Call Call.Reply) :
    Decidable (exchange.Deletes name) := inferInstanceAs (Decidable (_ ∧ _))

theorem not_deletes {name : String} {exchange : Exchange Call Call.Reply}
    (h : exchange.question.removed? = none) : ¬ exchange.Deletes name :=
  fun hdeletes => nomatch h.symm.trans hdeletes.2

end Exchange

namespace Simulation

variable {simulation : Simulation} {name : String} {call : Call}

theorem perform_linkAdd (spec : LinkSpec) :
    (∃ error, perform (.linkAdd spec) simulation = (.error error, simulation)) ∨
      ¬ simulation.Live spec.name ∧ ∃ after, perform (.linkAdd spec) simulation = (.ok (), after) ∧
        after.Live spec.name ∧ ∀ name, simulation.Live name → after.Live name := by
  simp only [perform]
  split_ifs with hlong hthere
  · exact .inl ⟨_, rfl⟩
  · exact .inl ⟨_, rfl⟩
  · refine .inr ⟨hthere, _, rfl, ?_, fun name hlive => Live.put hlive _⟩
    change ((simulation.put _).link? spec.name).isSome
    rw [link?_put, if_pos rfl]
    rfl

theorem perform_added {reply : call.Value} {after : Simulation}
    (h : perform call simulation = (.ok reply, after)) (hadded : call.added? = some name) :
    ¬ simulation.Live name ∧ after.Live name := by
  cases call <;> simp only [Call.added?, reduceCtorEq, Option.some.injEq] at hadded
  case linkAdd spec =>
    subst hadded
    rcases perform_linkAdd spec with ⟨error, hfail⟩ | ⟨hnew, after', hadd, hlive, -⟩
    · rw [hfail] at h
      exact nomatch congrArg Prod.fst h
    · rw [hadd] at h
      obtain ⟨-, rfl⟩ := Prod.mk.inj h
      exact ⟨hnew, hlive⟩

theorem Live.perform (h : simulation.Live name) (hcall : call.removed? = none) :
    (Simulation.perform call simulation).2.Live name := by
  cases call with
  | linkAdd spec =>
    rcases perform_linkAdd spec with ⟨error, hfail⟩ | ⟨-, after, hadd, -, hkeep⟩
    · rw [hfail]
      exact h
    · rw [hadd]
      exact hkeep name h
  | linkDel gone => simp [Call.removed?] at hcall
  | linkByName looked =>
    simp only [Simulation.perform]
    cases simulation.link? looked <;> exact h
  | linkModify _ | addressAdd _ _ | vlanAdd _ _ _ _ | vlanDel _ _ _ | applyVrf _ | removeVrf _ =>
    exact h

theorem perform_error {error : GatewayError} {after : Simulation}
    (h : perform call simulation = (.error error, after)) : after = simulation := by
  cases call <;> simp only [perform] at h
  case linkAdd spec =>
    split_ifs at h
    · exact (congrArg Prod.snd h).symm
    · exact (congrArg Prod.snd h).symm
    · exact nomatch congrArg Prod.fst h
  case linkDel name =>
    split_ifs at h
    · exact nomatch congrArg Prod.fst h
    · exact (congrArg Prod.snd h).symm
  case linkByName name =>
    cases hlink : simulation.link? name <;> rw [hlink] at h
    · exact (congrArg Prod.snd h).symm
    · exact nomatch congrArg Prod.fst h
  all_goals exact nomatch congrArg Prod.fst h

/-- A call is made to fail, or it is answered. Either way some faults may have passed. -/
theorem backends_cases (call : Call) (simulation : Simulation) :
    ∃ faults, (∃ error, backends call simulation = (.error error, { simulation with faults })) ∨
      backends call simulation = Simulation.perform call { simulation with faults } := by
  unfold backends
  rcases hrefusal : refusal? call simulation with ⟨error?, after⟩
  have hafter : ∃ faults, after = { simulation with faults } := by
    have hsecond := congrArg Prod.snd hrefusal
    cases call <;> exact ⟨_, hsecond.symm⟩
  obtain ⟨faults, rfl⟩ := hafter
  cases error? with
  | some error => exact ⟨faults, .inl ⟨error, rfl⟩⟩
  | none => exact ⟨faults, .inr rfl⟩

theorem backends_error {error : GatewayError}
    (h : (backends call simulation).1 = .error error) :
    ∃ faults, (backends call simulation).2 = { simulation with faults } := by
  obtain ⟨faults, ⟨error', hfail⟩ | hanswer⟩ := backends_cases call simulation
  · exact ⟨faults, by rw [hfail]⟩
  · rw [hanswer] at h ⊢
    exact ⟨faults, perform_error (Prod.ext h rfl)⟩

theorem Live.answered (h : simulation.Live name)
    (kept : ¬ Exchange.Deletes name ⟨call, (backends call simulation).1⟩) :
    (backends call simulation).2.Live name := by
  obtain ⟨faults, ⟨error, hfail⟩ | hanswer⟩ := backends_cases call simulation
  · rw [hfail]
    exact h
  · have hlive : Live { simulation with faults } name := h
    rw [hanswer] at kept ⊢
    cases hremoved : call.removed? with
    | none => exact hlive.perform hremoved
    | some gone =>
      cases call <;> cases hremoved
      simp only [Simulation.perform] at kept ⊢
      split_ifs at kept ⊢
      · have hne : gone ≠ name := fun hsame => kept ⟨rfl, congrArg some hsame⟩
        unfold Live
        rw [link?_drop, if_neg hne]
        exact hlive
      · exact hlive

theorem gone_of_answered (h : Exchange.Deletes name ⟨call, (backends call simulation).1⟩) :
    simulation.Live name ∧ ¬ (backends call simulation).2.Live name := by
  obtain ⟨faults, ⟨error, hfail⟩ | hanswer⟩ := backends_cases call simulation
  · rw [hfail] at h
    exact nomatch h.1
  · obtain ⟨hdone, hremoved⟩ := h
    rw [hanswer] at hdone ⊢
    cases call <;> cases hremoved
    simp only [Simulation.perform] at hdone ⊢
    split_ifs at hdone ⊢ with hlive
    · refine ⟨hlive, ?_⟩
      unfold Live
      rw [link?_drop, if_pos rfl]
      exact Bool.false_ne_true
    · exact nomatch hdone

theorem live_of_answered (h : Exchange.Creates name ⟨call, (backends call simulation).1⟩) :
    ¬ simulation.Live name ∧ (backends call simulation).2.Live name := by
  obtain ⟨faults, ⟨error, hfail⟩ | hanswer⟩ := backends_cases call simulation
  · rw [hfail] at h
    exact nomatch h.1
  · obtain ⟨hdone, hadded⟩ := h
    rw [hanswer] at hdone ⊢
    rcases hperform : Simulation.perform call { simulation with faults } with ⟨error | reply, after⟩
    · rw [hperform] at hdone
      exact nomatch hdone
    · have hlive := perform_added hperform hadded
      exact hlive

theorem not_live_answered (h : ¬ simulation.Live name) (hadded : call.added? = none) :
    ¬ (backends call simulation).2.Live name := by
  obtain ⟨faults, ⟨error, hfail⟩ | hanswer⟩ := backends_cases call simulation
  · rw [hfail]
    exact h
  · have hgone : ¬ Live { simulation with faults } name := h
    rw [hanswer]
    cases call <;> simp only [Call.added?, reduceCtorEq] at hadded <;>
      simp only [Simulation.perform]
    case linkDel gone =>
      split_ifs
      · unfold Live at hgone ⊢
        rw [link?_drop]
        split_ifs
        · exact Bool.false_ne_true
        · exact hgone
      · exact hgone
    case linkByName looked => cases link? _ looked <;> exact hgone
    all_goals exact hgone

/-- Taking down what is live succeeds, and only a deleted link vanishes. -/
theorem perform_takesDown (hcall : call.takesDown)
    (hlive : ∀ name, call.removed? = some name → simulation.Live name) :
    ∃ reply after, perform call simulation = (.ok reply, after) ∧
      ∀ name, after.link? name =
        if call.removed? = some name then none else simulation.link? name := by
  cases call <;> simp only [Call.takesDown, Bool.false_eq_true] at hcall
  case linkDel gone =>
    refine ⟨(), simulation.drop gone, if_pos (hlive gone rfl), fun name => ?_⟩
    rw [link?_drop]
    simp only [Call.removed?, Option.some.injEq]
  all_goals exact ⟨(), simulation, rfl, fun name => rfl⟩

end Simulation

/-! ## Plans -/

namespace Simulation

variable {α : Type} {gateway after : Gateway} {value : α} {simulation : Simulation} {name : String}
  {calls : List Call}

theorem reliable_of_asks {plan : Plan α} {property : Call → Prop} (hplan : plan.Asks property)
    (h : simulation.Reliable) : (plan.run backends simulation).state.Reliable :=
  hplan.run_invariant Reliable
    (fun call _ _ hreliable => hreliable.backends_eq call ▸ hreliable.perform call) h

/-- **A live link stays unless an exchange deletes it**, whatever fails. -/
theorem live_of_kept {plan : Plan α} (hlive : simulation.Live name)
    (kept : ∀ exchange ∈ plan.dialogue backends simulation, ¬ exchange.Deletes name) :
    (plan.run backends simulation).state.Live name := by
  induction plan generalizing simulation with
  | done result => exact hlive
  | ask call next ih =>
    simp only [Interaction.dialogue, Interaction.run] at kept ⊢
    exact ih _ (hlive.answered (kept _ List.mem_cons_self)) fun exchange hmem =>
      kept exchange (List.mem_cons_of_mem _ hmem)

theorem live_of_asks {plan : Plan α} (hplan : plan.Asks fun call => call.removed? = none)
    (hlive : simulation.Live name) : (plan.run backends simulation).state.Live name :=
  live_of_kept hlive fun _ hmem => Exchange.not_deletes (hplan.of_mem_dialogue hmem)

theorem not_live_of_asks {plan : Plan α} (hplan : plan.Asks fun call => call.added? = none)
    (hgone : ¬ simulation.Live name) : ¬ (plan.run backends simulation).state.Live name := by
  refine hplan.run_invariant (fun state : Simulation => ¬ state.Live name)
    (fun call state hadded h => ?_) hgone
  exact not_live_answered h hadded

/-- **A link that was deleted was live before and is not afterwards**, unless the plan creates
links. -/
theorem gone_of_deletes {plan : Plan α} (hplan : plan.Asks fun call => call.added? = none)
    {exchange : Exchange Call Call.Reply} (hmem : exchange ∈ plan.dialogue backends simulation)
    (hdeletes : exchange.Deletes name) :
    simulation.Live name ∧ ¬ (plan.run backends simulation).state.Live name := by
  induction hplan generalizing simulation with
  | done result => exact absurd hmem List.not_mem_nil
  | @ask call next first rest ih =>
    simp only [Interaction.dialogue, Interaction.run] at hmem ⊢
    rcases List.mem_cons.mp hmem with rfl | hmem
    · obtain ⟨hold, hgone⟩ := gone_of_answered hdeletes
      exact ⟨hold, not_live_of_asks (rest _) hgone⟩
    · obtain ⟨hold, hgone⟩ := ih _ hmem
      exact ⟨by_contra fun hnew => not_live_answered hnew first hold, hgone⟩

/-- **Links that were set up are new, distinct and live.** -/
theorem run_setUp (hcalls : ∀ call ∈ calls, call.removed? = none)
    (hdone : ((conclude gateway value after calls).run backends simulation).result =
      (.ok value, after)) :
    (calls.filterMap Call.added?).Nodup ∧ ∀ name ∈ calls.filterMap Call.added?,
      ¬ simulation.Live name ∧
        ((conclude gateway value after calls).run backends simulation).state.Live name := by
  induction calls generalizing simulation with
  | nil => simp
  | cons call calls ih =>
    have hrest : ∀ other ∈ calls, other.removed? = none :=
      fun other hmem => hcalls other (List.mem_cons_of_mem _ hmem)
    have hkeep : ∀ name, simulation.Live name → (backends call simulation).2.Live name :=
      fun name hlive => hlive.answered (Exchange.not_deletes (hcalls call List.mem_cons_self))
    have hfirst : ∀ name, call.added? = some name → (backends call simulation).1.isOk →
        ¬ simulation.Live name ∧ (backends call simulation).2.Live name :=
      fun name hadded hok => live_of_answered ⟨hok, hadded⟩
    simp only [conclude, Interaction.run] at hdone ⊢
    rcases hreply : backends call simulation with ⟨error | reply, next⟩ <;>
      rw [hreply] at hdone hkeep hfirst
    · cases congrArg Prod.fst hdone
    obtain ⟨hnodup, hnew⟩ := ih hrest hdone
    -- what the later calls create was not there before the first call either
    have hlater : ∀ name ∈ calls.filterMap Call.added?, ¬ simulation.Live name ∧
        ((conclude gateway value after calls).run backends next).state.Live name :=
      fun name hmem => ⟨fun hlive => (hnew name hmem).1 (hkeep name hlive), (hnew name hmem).2⟩
    cases hadded : call.added? with
    | none =>
      rw [List.filterMap_cons_none hadded]
      exact ⟨hnodup, hlater⟩
    | some added =>
      obtain ⟨hfresh, hlive⟩ := hfirst added hadded rfl
      rw [List.filterMap_cons_some hadded]
      refine ⟨List.nodup_cons.mpr ⟨fun hmem => (hnew added hmem).1 hlive, hnodup⟩, ?_⟩
      intro name hmem
      rcases List.mem_cons.mp hmem with rfl | hmem
      · exact ⟨hfresh, live_of_asks (asks_conclude hrest) hlive⟩
      · exact hlater name hmem

/-- **Live links can be taken down**, and no others vanish. -/
theorem run_takeDown (hcalls : ∀ call ∈ calls, call.takesDown) (h : simulation.Reliable)
    (hnodup : (calls.filterMap Call.removed?).Nodup)
    (hlive : ∀ name ∈ calls.filterMap Call.removed?, simulation.Live name) :
    ((conclude gateway value after calls).run backends simulation).result = (.ok value, after) ∧
      ∀ name, ((conclude gateway value after calls).run backends simulation).state.link? name =
        if name ∈ calls.filterMap Call.removed? then none else simulation.link? name := by
  induction calls generalizing simulation with
  | nil => simp [conclude, Interaction.run]
  | cons call calls ih =>
    have hrest : ∀ other ∈ calls, other.takesDown :=
      fun other hmem => hcalls other (List.mem_cons_of_mem _ hmem)
    have hmem : ∀ name, name ∈ (call :: calls).filterMap Call.removed? ↔
        call.removed? = some name ∨ name ∈ calls.filterMap Call.removed? := by
      simp [List.mem_filterMap]
    have hsplit : (calls.filterMap Call.removed?).Nodup ∧
        ∀ name ∈ calls.filterMap Call.removed?, call.removed? ≠ some name := by
      cases hremoved : call.removed? with
      | none =>
        rw [List.filterMap_cons_none hremoved] at hnodup
        exact ⟨hnodup, by simp⟩
      | some gone =>
        rw [List.filterMap_cons_some hremoved, List.nodup_cons] at hnodup
        refine ⟨hnodup.2, fun name hname hsame => hnodup.1 ?_⟩
        rwa [Option.some.inj hsame]
    obtain ⟨reply, next, hperform, hlinks⟩ := perform_takesDown (hcalls call List.mem_cons_self)
      fun name hname => hlive name ((hmem name).mpr (.inl hname))
    have hreliable := h.perform call
    simp only [conclude, Interaction.run, h.backends_eq]
    rw [hperform] at hreliable ⊢
    obtain ⟨hresult, hgone⟩ := ih hrest hreliable hsplit.1 fun name hname => by
      unfold Live
      rw [hlinks, if_neg (hsplit.2 name hname)]
      exact hlive name ((hmem name).mpr (.inr hname))
    refine ⟨hresult, fun name => ?_⟩
    rw [hgone, hlinks]
    simp only [hmem]
    by_cases hfirst : call.removed? = some name <;>
      by_cases hlater : name ∈ calls.filterMap Call.removed? <;> simp [hfirst, hlater]

theorem run_probe (hcalls : ∀ call ∈ calls, ∃ name, call = .linkByName name ∧ simulation.Live name)
    (h : simulation.Reliable) :
    ((conclude gateway value after calls).run backends simulation).result = (.ok value, after) ∧
      ((conclude gateway value after calls).run backends simulation).state = simulation := by
  induction calls with
  | nil => exact ⟨rfl, rfl⟩
  | cons call calls ih =>
    obtain ⟨name, rfl, hlive⟩ := hcalls call List.mem_cons_self
    obtain ⟨link, hlink⟩ := Option.isSome_iff_exists.mp hlive
    simp only [conclude, Interaction.run, h.backends_eq, perform, hlink]
    exact ih fun other hmem => hcalls other (List.mem_cons_of_mem _ hmem)

end Simulation

end EvpnGateway
