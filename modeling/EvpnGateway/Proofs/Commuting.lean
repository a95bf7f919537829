import EvpnGateway.Proofs.Ownership
import EvpnGateway.Proofs.Segments
/-!
# Creations in either order

Two requests to create resources under different names come to the same in either order, unless one
is for a port that has to wait for the bridge of the other.

* `Resource.Clashes`, `Gateway.Awaits`: new resources that exclude each other, and ports that wait;
* `realization_put_iff`: what one new resource means for setting up another;
* **`establish_comm`**: the decisions about two new resources can be taken in either order;
* `Simulation.Admits`, **`run_setUp_iff`**, `shown?_run_setUp`: when a kernel takes new links, and
  what it shows then; **`run_setUp_comm`**: links that are set up in either order;
* **`creates_commute`**.
-/

namespace EvpnGateway

/-! ## New resources beside each other -/

/-- Two bridges that want the same VLAN or the same segment. -/
def Resource.Clashes : Resource → Resource → Prop
  | .bridge one, .bridge two => one.spec.overlaps two.spec
  | _, _ => False

theorem Resource.Clashes.symm {one two : Resource} (h : one.Clashes two) : two.Clashes one := by
  cases one <;> cases two <;> first | exact h | exact LogicalBridgeSpec.overlaps_comm.mp h

namespace Gateway

/-- A new port is to join a bridge that is only about to be created. -/
def Awaits (gateway : Gateway) (new other : Resource) : Prop :=
  ∃ port bridge, new = .port port ∧ other = .bridge bridge ∧ bridge.name ∈ port.spec.bridges ∧
    gateway.bridges.get? bridge.name = none

variable {gateway middle last : Gateway} {new other one two : Resource} {calls : List Call}

theorem put_comm (gateway : Gateway) (h : ¬ (one.kind = two.kind ∧ one.name = two.name)) :
    (gateway.put one).put two = (gateway.put two).put one := by
  rcases one with v | b | p <;> rcases two with v' | b' | p' <;> try rfl
  · have hname : v.name ≠ v'.name := fun hsame => h ⟨rfl, hsame⟩
    simp only [put, Store.insert_comm gateway.vrfs hname]
  · have hname : b.name ≠ b'.name := fun hsame => h ⟨rfl, hsame⟩
    simp only [put, Store.insert_comm gateway.bridges hname]
  · have hname : p.name ≠ p'.name := fun hsame => h ⟨rfl, hsame⟩
    simp only [put, Store.insert_comm gateway.ports hname]

theorem vlansOf_congr {names : List String}
    (h : ∀ name ∈ names, middle.bridges.get? name = gateway.bridges.get? name) :
    middle.vlansOf names = gateway.vlansOf names := by
  induction names with
  | nil => rfl
  | cons name names ih =>
    simp only [vlansOf, h name List.mem_cons_self,
      ih fun other hother => h other (List.mem_cons_of_mem _ hother)]

theorem realization_bridge_iff {bridge : LogicalBridge} :
    gateway.realization (.bridge bridge) = .ok calls ↔
      calls = bridge.realization gateway.settings ∧
        ∀ stored, .bridge stored ∈ gateway.resources → ¬ stored.spec.overlaps bridge.spec := by
  constructor
  · intro h
    exact ⟨calls_of_realization_bridge h, fun stored hstored =>
      free_of_bridgeRealization h stored (mem_bridges_iff.mpr hstored)⟩
  · rintro ⟨rfl, hfree⟩
    exact bridgeRealization_free bridge fun stored hstored =>
      hfree stored (mem_bridges_iff.mp hstored)

/-- **What a resource under a fresh name means for setting up another**: it must not clash. -/
theorem realization_put_iff (hfresh : gateway.find? other.kind other.name = none)
    (hawaits : ¬ gateway.Awaits new other) :
    (gateway.put other).realization new = .ok calls ↔
      gateway.realization new = .ok calls ∧ ¬ new.Clashes other := by
  cases new with
  | vrf v =>
    simp only [realization, Vrf.lifecycle, settings_put, Resource.Clashes, not_false_eq_true,
      and_true]
  | bridge b =>
    have hresources : ∀ stored, .bridge stored ∈ (gateway.put other).resources ↔
        .bridge stored = other ∨ .bridge stored ∈ gateway.resources := by
      intro stored
      rw [mem_resources_put]
      refine or_congr_right (and_iff_left_of_imp fun hmem hsame => ?_)
      rw [mem_resources_iff, ← hsame.1, ← hsame.2, hfresh] at hmem
      cases hmem
    rw [realization_bridge_iff, realization_bridge_iff, settings_put, and_assoc]
    refine and_congr_right fun _ => ?_
    simp only [hresources]
    constructor
    · intro hfree
      refine ⟨fun stored hstored => hfree stored (.inr hstored), fun hclash => ?_⟩
      cases other with
      | bridge c => exact hfree c (.inl rfl) (LogicalBridgeSpec.overlaps_comm.mp hclash)
      | vrf _ | port _ => exact hclash
    · rintro ⟨hfree, hclash⟩ stored (rfl | hstored)
      · exact fun hoverlap => hclash (LogicalBridgeSpec.overlaps_comm.mp hoverlap)
      · exact hfree stored hstored
  | port p =>
    have hvlans : (gateway.put other).vlansOf p.spec.bridges = gateway.vlansOf p.spec.bridges := by
      refine vlansOf_congr fun name hname => ?_
      cases other with
      | vrf _ | port _ => rfl
      | bridge b =>
        simp only [find?, Resource.kind, Resource.name, Option.map_eq_none_iff] at hfresh
        simp only [put, Store.get?_insert]
        refine if_neg fun hsame : b.name = name => hawaits ⟨p, b, rfl, rfl, ?_, hfresh⟩
        rwa [hsame]
    simp only [realization, BridgePort.lifecycle, settings_put, hvlans, Resource.Clashes,
      not_false_eq_true, and_true]

/-! ## Decisions in either order -/

theorem establish_eq_ok_iff {undertaking : Undertaking} :
    gateway.establish new = .ok undertaking ↔
      (∃ existing, gateway.find? new.kind new.name = some existing ∧
        undertaking = .perform [] existing.answer gateway) ∨
      gateway.find? new.kind new.name = none ∧ ∃ calls, gateway.realization new = .ok calls ∧
        undertaking = .perform calls new.answer (gateway.put new) := by
  unfold establish
  cases gateway.find? new.kind new.name with
  | some existing => simp [eq_comm]
  | none => cases gateway.realization new <;> simp [Except.map, eq_comm]

theorem setsUp_of_establish {answer : Answer}
    (h : gateway.establish new = .ok (.perform calls answer middle)) :
    ∀ call ∈ calls, call.setsUp := by
  rcases establish_eq_ok_iff.mp h with ⟨existing, -, hsame⟩ | ⟨-, made, hmade, hsame⟩
  · cases hsame
    simp
  · cases hsame
    exact Resource.setsUp_of_realization hmade

/-- **New resources can be decided about in either order**, with the same calls and answers. -/
theorem establish_comm {answer₁ answer₂ : Answer} {calls₁ calls₂ : List Call}
    (hne : ¬ (one.kind = two.kind ∧ one.name = two.name)) (hone : ¬ gateway.Awaits one two)
    (htwo : ¬ gateway.Awaits two one)
    (first : gateway.establish one = .ok (.perform calls₁ answer₁ middle))
    (second : middle.establish two = .ok (.perform calls₂ answer₂ last)) :
    ∃ between, gateway.establish two = .ok (.perform calls₂ answer₂ between) ∧
      between.establish one = .ok (.perform calls₁ answer₁ last) := by
  have hne' : ¬ (two.kind = one.kind ∧ two.name = one.name) :=
    fun hsame => hne ⟨hsame.1.symm, hsame.2.symm⟩
  rcases establish_eq_ok_iff.mp first with ⟨existing, hfound, hsame⟩ | ⟨hfresh, made, hmade, hsame⟩
  · -- the first resource is stored already, with or without the second
    cases hsame
    refine ⟨last, second, establish_eq_ok_iff.mpr (.inl ⟨existing, ?_, ?_⟩)⟩
    all_goals rcases establish_eq_ok_iff.mp second with ⟨_, -, hsame⟩ | ⟨-, _, -, hsame⟩ <;>
      cases hsame
    · exact hfound
    · rw [find?_put, if_neg hne', hfound]
    · rfl
    · rfl
  cases hsame
  rcases establish_eq_ok_iff.mp second with ⟨existing, hfound, hsame⟩ | ⟨hfresh', set, hset, hsame⟩
  · -- the second is
    cases hsame
    rw [find?_put, if_neg hne] at hfound
    exact ⟨gateway, establish_eq_ok_iff.mpr (.inl ⟨existing, hfound, rfl⟩), first⟩
  · -- both are new
    cases hsame
    rw [find?_put, if_neg hne] at hfresh'
    obtain ⟨hset, hclash⟩ := (realization_put_iff hfresh htwo).mp hset
    refine ⟨gateway.put two, establish_eq_ok_iff.mpr (.inr ⟨hfresh', _, hset, rfl⟩),
      establish_eq_ok_iff.mpr (.inr ⟨?_, calls₁, ?_, ?_⟩)⟩
    · rw [find?_put, if_neg hne', hfresh]
    · exact (realization_put_iff hfresh' hone).mpr ⟨hmade, fun h => hclash h.symm⟩
    · rw [put_comm gateway hne]

end Gateway

/-! ## Links in either order -/

/-- The link that a call asks for. -/
def Call.spec? : Call → Option LinkSpec
  | linkAdd spec => some spec
  | _ => none

/-- A link without the number that the kernel gave it. -/
def LiveLink.unnumbered (link : LiveLink) : LiveLink := { link with index := 0 }

/-- A new link as the kernel shows it, without its number. -/
def LinkSpec.shown (spec : LinkSpec) : LiveLink where
  name := spec.name
  kind := some spec.kind.word
  mtu := 1500
  address := spec.address
  operState := "UP"

/-- What is shown under a name where links were added to those that were there. -/
def overlay (specs : List LinkSpec) (there : String → Option LiveLink) (name : String) :
    Option LiveLink :=
  ((specs.find? fun spec => spec.name == name).map LinkSpec.shown).or (there name)

theorem overlay_overlay (specs others : List LinkSpec) (there : String → Option LiveLink) :
    overlay others (overlay specs there) = overlay (others ++ specs) there := by
  funext name
  simp only [overlay, List.find?_append, Option.map_or, Option.or_assoc]

theorem overlay_comm {specs others : List LinkSpec} (there : String → Option LiveLink)
    (h : ((specs ++ others).map LinkSpec.name).Nodup) :
    overlay (others ++ specs) there = overlay (specs ++ others) there := by
  funext name
  simp only [overlay, List.find?_append]
  cases hone : specs.find? fun spec => spec.name == name with
  | none => simp
  | some one =>
    cases htwo : others.find? fun spec => spec.name == name with
    | none => simp
    | some two =>
      -- both would have the name
      rw [List.map_append, List.nodup_append] at h
      have hsame : one.name = two.name :=
        (beq_iff_eq.mp (List.find?_some hone :)).trans (beq_iff_eq.mp (List.find?_some htwo :)).symm
      exact absurd hsame (h.2.2 _ (List.mem_map_of_mem (List.mem_of_find?_eq_some hone)) _
        (List.mem_map_of_mem (List.mem_of_find?_eq_some htwo)))

namespace Simulation

variable {simulation next : Simulation} {specs others : List LinkSpec} {name : String} {call : Call}

/-- The live link of a name, without its number. -/
def shown? (simulation : Simulation) (name : String) : Option LiveLink :=
  (simulation.link? name).map LiveLink.unnumbered

/-- The kernel can take new links: their names fit, differ, and are not in use. -/
structure Admits (simulation : Simulation) (specs : List LinkSpec) : Prop where
  short : ∀ spec ∈ specs, Utf8.size spec.name ≤ interfaceNameLimit
  distinct : (specs.map LinkSpec.name).Nodup
  unused : ∀ spec ∈ specs, ¬ simulation.Live spec.name

theorem admits_nil (simulation : Simulation) : simulation.Admits [] :=
  ⟨by simp, List.nodup_nil, by simp⟩

theorem Admits.perm (h : simulation.Admits specs) (hperm : specs.Perm others) :
    simulation.Admits others where
  short spec hspec := h.short spec (hperm.mem_iff.mpr hspec)
  distinct := (hperm.map LinkSpec.name).nodup_iff.mp h.distinct
  unused spec hspec := h.unused spec (hperm.mem_iff.mpr hspec)

theorem Admits.of_append (h : simulation.Admits (specs ++ others)) : simulation.Admits specs where
  short spec hspec := h.short spec (List.mem_append_left _ hspec)
  distinct := h.distinct.sublist ((List.sublist_append_left specs others).map _)
  unused spec hspec := h.unused spec (List.mem_append_left _ hspec)

theorem live_iff_of_overlay (h : next.shown? = overlay specs simulation.shown?) :
    next.Live name ↔ name ∈ specs.map LinkSpec.name ∨ simulation.Live name := by
  have hshown : ∀ simulation : Simulation, simulation.Live name ↔ (simulation.shown? name).isSome :=
    fun simulation => by simp [Live, shown?]
  rw [hshown next, hshown simulation, h]
  simp [overlay, Option.isSome_or]

theorem admits_append_iff (h : next.shown? = overlay specs simulation.shown?) :
    simulation.Admits (specs ++ others) ↔ simulation.Admits specs ∧ next.Admits others := by
  constructor
  · intro hall
    have hdistinct := hall.distinct
    rw [List.map_append, List.nodup_append] at hdistinct
    refine ⟨hall.of_append, fun spec hspec => hall.short spec (List.mem_append_right _ hspec),
      hdistinct.2.1, fun spec hspec hlive => ?_⟩
    rcases (live_iff_of_overlay h).mp hlive with hnew | hold
    · exact hdistinct.2.2 _ hnew _ (List.mem_map_of_mem hspec) rfl
    · exact hall.unused spec (List.mem_append_right _ hspec) hold
  · rintro ⟨hspecs, hothers⟩
    refine ⟨fun spec hspec => ?_, ?_, fun spec hspec hlive => ?_⟩
    · exact (List.mem_append.mp hspec).elim (hspecs.short spec) (hothers.short spec)
    · rw [List.map_append, List.nodup_append]
      refine ⟨hspecs.distinct, hothers.distinct, ?_⟩
      rintro _ hone _ htwo rfl
      obtain ⟨spec, hspec, hname⟩ := List.mem_map.mp htwo
      exact hothers.unused spec hspec ((live_iff_of_overlay h).mpr (.inl (hname ▸ hone)))
    · rcases List.mem_append.mp hspec with hspec | hspec
      · exact hspecs.unused spec hspec hlive
      · exact hothers.unused spec hspec ((live_iff_of_overlay h).mpr (.inr hlive))

/-- A call that sets up is answered well just if the kernel can take its link, and then the link is
added. -/
theorem perform_setsUp (hcall : call.setsUp) (simulation : Simulation) :
    (¬ simulation.Admits call.spec?.toList ∧
      ∃ error, perform call simulation = (.error error, simulation)) ∨
    simulation.Admits call.spec?.toList ∧ ∃ reply next,
      perform call simulation = (.ok reply, next) ∧
      next.shown? = overlay call.spec?.toList simulation.shown? := by
  cases call <;> simp only [Call.setsUp, Bool.false_eq_true] at hcall
  case linkAdd spec =>
    simp only [perform]
    split_ifs with hlong hthere
    · exact .inl ⟨fun h => absurd (h.short spec (by simp [Call.spec?])) (by omega), _, rfl⟩
    · exact .inl ⟨fun h => h.unused spec (by simp [Call.spec?]) hthere, _, rfl⟩
    · refine .inr ⟨⟨?_, ?_, ?_⟩, _, _, rfl, ?_⟩
      · simpa [Call.spec?] using hlong
      · simp [Call.spec?]
      · rintro other hother
        rw [Call.spec?, Option.toList_some, List.mem_singleton] at hother
        exact hother ▸ hthere
      · funext name
        change ((simulation.put _).link? name).map _ = _
        rw [link?_put]
        by_cases hname : spec.name = name
        · subst hname
          simp [overlay, Call.spec?, LiveLink.unnumbered, LinkSpec.shown]
        · simp [overlay, Call.spec?, hname, shown?]
  all_goals exact .inr ⟨admits_nil simulation, (), simulation, rfl, rfl⟩

section Runs

variable {α : Type} {gateway gateway' after after' : Gateway} {value value' : α}
  {calls calls' : List Call}

theorem filterMap_spec?_cons (call : Call) (calls : List Call) :
    (call :: calls).filterMap Call.spec? = call.spec?.toList ++ calls.filterMap Call.spec? := by
  rw [List.filterMap_cons]
  cases call.spec? <;> rfl

/-- **Resources are set up just if the kernel can take their links**, where nothing is made to
fail. -/
theorem run_setUp_iff (h : simulation.Reliable) (hcalls : ∀ call ∈ calls, call.setsUp) :
    ((conclude gateway value after calls).run backends simulation).result = (.ok value, after) ↔
      simulation.Admits (calls.filterMap Call.spec?) := by
  induction calls generalizing simulation with
  | nil => exact iff_of_true rfl (admits_nil simulation)
  | cons call calls ih =>
    have hrest : ∀ other ∈ calls, other.setsUp :=
      fun other hmem => hcalls other (List.mem_cons_of_mem _ hmem)
    have hreliable := h.perform call
    simp only [conclude, Interaction.run, h.backends_eq]
    rcases perform_setsUp (hcalls call List.mem_cons_self) simulation with
      ⟨hrefused, error, hperform⟩ | ⟨hadmits, reply, next, hperform, hshown⟩ <;>
      rw [hperform] at hreliable ⊢ <;> rw [filterMap_spec?_cons]
    · refine iff_of_false (fun hsame => ?_) fun hall => hrefused hall.of_append
      cases congrArg Prod.fst hsame
    · rw [admits_append_iff hshown, and_iff_right hadmits]
      exact ih hreliable hrest

/-- Then the kernel shows their links besides those that were there. -/
theorem shown?_run_setUp (h : simulation.Reliable) (hcalls : ∀ call ∈ calls, call.setsUp)
    (hadmits : simulation.Admits (calls.filterMap Call.spec?)) :
    ((conclude gateway value after calls).run backends simulation).state.shown? =
      overlay (calls.filterMap Call.spec?) simulation.shown? := by
  induction calls generalizing simulation with
  | nil => rfl
  | cons call calls ih =>
    have hrest : ∀ other ∈ calls, other.setsUp :=
      fun other hmem => hcalls other (List.mem_cons_of_mem _ hmem)
    have hreliable := h.perform call
    rw [filterMap_spec?_cons] at hadmits ⊢
    simp only [conclude, Interaction.run, h.backends_eq]
    rcases perform_setsUp (hcalls call List.mem_cons_self) simulation with
      ⟨hrefused, -⟩ | ⟨-, reply, next, hperform, hshown⟩
    · exact absurd hadmits.of_append hrefused
    · rw [hperform] at hreliable ⊢
      rw [← overlay_comm _ hadmits.distinct, ← overlay_overlay, ← hshown]
      exact ih hreliable hrest ((admits_append_iff hshown).mp hadmits).2

/-- **Resources that were set up one after the other can be set up in the other order**, and the
kernel shows the same links then. -/
theorem run_setUp_comm {β : Type} {other : β} (gateway₂ after₂ gateway₃ after₃ : Gateway)
    (h : simulation.Reliable) (hcalls : ∀ call ∈ calls, call.setsUp)
    (hcalls' : ∀ call ∈ calls', call.setsUp)
    (first : ((conclude gateway value after calls).run backends simulation).result =
      (.ok value, after))
    (second : ((conclude gateway' other after' calls').run backends
      ((conclude gateway value after calls).run backends simulation).state).result =
      (.ok other, after')) :
    let swapped := (conclude gateway₂ other after₂ calls').run backends simulation
    let last := (conclude gateway₃ value after₃ calls).run backends swapped.state
    swapped.result = (.ok other, after₂) ∧ last.result = (.ok value, after₃) ∧
      last.state.shown? = ((conclude gateway' other after' calls').run backends
        ((conclude gateway value after calls).run backends simulation).state).state.shown? := by
  intro swapped last
  have hreliable : ∀ {γ : Type} {gateway after : Gateway} {value : γ} (calls : List Call),
      ((conclude gateway value after calls).run backends simulation).state.Reliable := by
    intro γ gateway after value calls
    have hasks : (conclude gateway value after calls).Asks fun _ => True :=
      asks_conclude fun _ _ => trivial
    exact reliable_of_asks hasks h
  -- the links of both fit, and so they do in the other order
  have hfirst := (run_setUp_iff h hcalls).mp first
  have hshown : ((conclude gateway value after calls).run backends simulation).state.shown? =
      overlay (calls.filterMap Call.spec?) simulation.shown? := shown?_run_setUp h hcalls hfirst
  have hsecond := (run_setUp_iff (hreliable calls) hcalls').mp second
  have hboth := (admits_append_iff hshown).mpr ⟨hfirst, hsecond⟩
  have hswapped := hboth.perm List.perm_append_comm
  have hshown' : swapped.state.shown? =
      overlay (calls'.filterMap Call.spec?) simulation.shown? :=
    shown?_run_setUp h hcalls' hswapped.of_append
  have hlast := ((admits_append_iff hshown').mp hswapped).2
  refine ⟨(run_setUp_iff h hcalls').mpr hswapped.of_append,
    (run_setUp_iff (hreliable calls') hcalls).mpr hlast, ?_⟩
  calc last.state.shown?
      = overlay (calls.filterMap Call.spec? ++ calls'.filterMap Call.spec?) simulation.shown? := by
        rw [shown?_run_setUp (hreliable calls') hcalls hlast, hshown', overlay_overlay]
    _ = overlay (calls'.filterMap Call.spec? ++ calls.filterMap Call.spec?) simulation.shown? :=
        (overlay_comm _ hboth.distinct).symm
    _ = _ := by rw [shown?_run_setUp (hreliable calls) hcalls' hsecond, hshown, overlay_overlay]

end Runs

end Simulation

/-! ## Requests in either order -/

namespace Gateway

variable {gateway : Gateway} {simulation : Simulation} {draw draw₁ draw₂ : Draw}
  {request one two : Request} {check check₁ check₂ : Check} {new new₁ new₂ : Resource}
  {answer answer₁ answer₂ : Answer}

theorem intent_congr {other : Gateway} (h : other.settings = gateway.settings) (draw : Draw)
    (request : Request) : other.intent draw request = gateway.intent draw request := by
  cases request <;> simp only [intent, newVrf, h]

theorem settings_of_establish {calls : List Call} {after : Gateway}
    (h : gateway.establish new = .ok (.perform calls answer after)) :
    after.settings = gateway.settings := by
  rcases establish_eq_ok_iff.mp h with ⟨_, -, hsame⟩ | ⟨-, _, -, hsame⟩ <;> cases hsame
  · rfl
  · exact settings_put

theorem step_of_establish {calls : List Call} {after : Gateway}
    (hintent : gateway.intent draw request = .create (.ok ()) new)
    (h : gateway.establish new = .ok (.perform calls answer after))
    (hresult : ((conclude gateway answer after calls).run Simulation.backends simulation).result =
      (.ok answer, after)) :
    gateway.step Simulation.backends draw request simulation =
      let outcome := (conclude gateway answer after calls).run Simulation.backends simulation
      ⟨.ok answer, outcome.asked, after, outcome.state⟩ := by
  have hdecision : gateway.decide draw (gateway.intent draw request) =
      .ok (.perform calls answer after) := by
    rw [hintent]
    exact h
  rw [step_undertaken _ _ hdecision]
  simp only [Undertaking.plan, hresult]

/-- Where it succeeds, so did the check of the request and all of the calls. -/
theorem establish_of_step (hintent : gateway.intent draw request = .create check new)
    (hanswer : (gateway.step Simulation.backends draw request simulation).answer = .ok answer) :
    check = .ok () ∧ ∃ calls after, gateway.establish new = .ok (.perform calls answer after) ∧
      ((conclude gateway answer after calls).run Simulation.backends simulation).result =
        (.ok answer, after) := by
  cases hdecision : gateway.decide draw (gateway.intent draw request) with
  | error error =>
    rw [step_refused _ _ hdecision] at hanswer
    exact nomatch hanswer
  | ok undertaking =>
    rw [step_undertaken _ _ hdecision] at hanswer
    rw [hintent] at hdecision
    obtain ⟨_, rfl, hestablish⟩ := ok_of_bind hdecision
    obtain ⟨calls, answer', after, rfl⟩ : ∃ calls answer after,
        undertaking = .perform calls answer after := by
      rcases establish_eq_ok_iff.mp hestablish with ⟨_, -, rfl⟩ | ⟨-, _, -, rfl⟩ <;>
        exact ⟨_, _, _, rfl⟩
    rcases (commits_conclude gateway answer' after calls).run_cases Simulation.backends simulation
      with ⟨hresult, -⟩ | ⟨_, _, _, hresult, -⟩
    · obtain rfl : answer' = answer :=
        Except.ok.inj ((congrArg Prod.fst hresult).symm.trans hanswer)
      exact ⟨rfl, calls, after, hestablish, hresult⟩
    · exact nomatch (congrArg Prod.fst hresult).symm.trans hanswer

/-- Serves one more request over the simulated backends. -/
def Served.next (served : Served Simulation) (draw : Draw) (request : Request) :
    Served Simulation :=
  served.gateway.step Simulation.backends draw request served.backends

/-- **Requests to create under different names come to the same in either order**, whatever is
stored and live, unless one is for a port that waits for the bridge of the other: if both succeed
one after the other then they succeed in the other order, with the same answers, and leave the same
gateway and the same links, apart from the numbers that the kernel gives to links. -/
theorem creates_commute (hreliable : simulation.Reliable)
    (hone : gateway.intent draw₁ one = .create check₁ new₁)
    (htwo : gateway.intent draw₂ two = .create check₂ new₂)
    (hnames : new₁.name ≠ new₂.name)
    (hawaits₁ : ¬ gateway.Awaits new₁ new₂) (hawaits₂ : ¬ gateway.Awaits new₂ new₁) :
    let first := gateway.step Simulation.backends draw₁ one simulation
    let second := first.next draw₂ two
    let swapped := gateway.step Simulation.backends draw₂ two simulation
    let last := swapped.next draw₁ one
    first.answer = .ok answer₁ → second.answer = .ok answer₂ →
      swapped.answer = .ok answer₂ ∧ last.answer = .ok answer₁ ∧ last.gateway = second.gateway ∧
        ∀ name, last.backends.shown? name = second.backends.shown? name := by
  intro first second swapped last hfirst hsecond
  obtain ⟨rfl, calls₁, middle, hestablish₁, hresult₁⟩ := establish_of_step hone hfirst
  have hstep₁ := step_of_establish hone hestablish₁ hresult₁
  simp only [second, Served.next, first, hstep₁] at hsecond
  have htwo' := (intent_congr (settings_of_establish hestablish₁) draw₂ two).trans htwo
  obtain ⟨rfl, calls₂, after, hestablish₂, hresult₂⟩ := establish_of_step htwo' hsecond
  have hstep₂ := step_of_establish htwo' hestablish₂ hresult₂
  -- the decisions swap, and so do the calls
  obtain ⟨between, hswapped, hlast⟩ := establish_comm (fun hsame => hnames hsame.2) hawaits₁
    hawaits₂ hestablish₁ hestablish₂
  obtain ⟨hresult₃, hresult₄, hshown⟩ := Simulation.run_setUp_comm gateway between between after
    hreliable (setsUp_of_establish hestablish₁) (setsUp_of_establish hestablish₂) hresult₁ hresult₂
  have hstep₃ := step_of_establish htwo hswapped hresult₃
  have hone' := (intent_congr (settings_of_establish hswapped) draw₁ one).trans hone
  have hstep₄ := step_of_establish hone' hlast hresult₄
  simp only [first, second, swapped, last, Served.next, hstep₁, hstep₂, hstep₃, hstep₄, true_and]
  exact fun name => congrFun hshown name

/-- A VRF, and a port that joins a bridge which is there. -/
theorem creates_commute_blue :
    let draw : Draw := ⟨⟨0, 0⟩, .zero, ⟨0, 0⟩⟩
    let vlan : VlanId := ⟨10, by decide, by decide⟩
    let network := ({} : Gateway).step Simulation.backends draw
      (.createBridge "red1" { spec := { vlan } }) {}
    let vrf : VrfSpec := { vni := some ⟨100, by decide⟩ }
    let port : BridgePortSpec :=
      { mac := ⟨2, 0, 0, 0, 0, 1⟩, type := .trunk, bridges := ["bridges/red1"] }
    let one : Request := .createVrf "blue" { spec := vrf }
    let two : Request := .createPort "port1" { spec := port }
    let first := network.next draw one
    let second := first.next draw two
    let last := (network.next draw two).next draw one
    network.backends.Reliable ∧
      first.answer = .ok (.vrf { name := "vrfs/blue", spec := vrf, status := ⟨4, 1001,
        draw.octets.localUnicast⟩ }) ∧
      second.answer = .ok (.port { name := "ports/port1", spec := port, status := .up }) ∧
      last.answer = first.answer ∧ last.gateway = second.gateway := by
  intro draw vlan network vrf port one two first second last
  have hreliable : network.backends.Reliable := ⟨by decide +kernel, by decide +kernel⟩
  have hfirst : first.answer = .ok (.vrf { name := "vrfs/blue", spec := vrf, status := ⟨4, 1001,
      draw.octets.localUnicast⟩ }) := by decide +kernel
  have hsecond : second.answer =
      .ok (.port { name := "ports/port1", spec := port, status := .up }) := by decide +kernel
  have hlast := @creates_commute _ _ draw draw one two _ _ _ _ _ _ hreliable
    rfl rfl (by decide +kernel) (by rintro ⟨_, _, hport, -⟩; cases hport)
    (by rintro ⟨_, _, -, hbridge, -⟩; cases hbridge) hfirst hsecond
  exact ⟨hreliable, hfirst, hsecond, hlast.2.1.trans hfirst.symm, hlast.2.2.1⟩

end Gateway

end EvpnGateway
