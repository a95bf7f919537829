import EvpnGateway.Proofs.Commit
import EvpnGateway.Proofs.Frozen
/-!
# Journals

A gateway with an entry for every request since its start. What is stored now can be traced back to
the request that brought it there.

* `Entry`, `Gateway.record`: a request with all that came of it; `Entry.Creates`, `Entry.Deletes`:
  requests that put a resource into its store or took one out;
* `exchanges_of_creates`: a resource is created by its own calls, and all of them succeeded;
* `exchanges_of_deletes`: it is deleted by taking it down, and all of these calls succeeded;
* `Journal`: gateways with their entries, over any backends; `prior`: the journal before an entry;
* **`Journal.created`**: every stored resource was created, and not deleted since;
* **`Journal.kept_after`**: what was stored after an entry and not deleted since is still stored;
  `kept`: the same for what was stored before it.
-/

namespace EvpnGateway

/-- A request that was served: the gateway that it came to, what came of it, and the gateway after
it. -/
structure Entry where
  gateway : Gateway
  draw : Draw
  request : Request
  exchanges : List (Exchange Call Call.Reply)
  answer : Except GatewayError Answer
  after : Gateway

/-- The calls that were made for the request. -/
def Entry.calls (entry : Entry) : List Call := entry.exchanges.map Exchange.question

/-- The entry of a request that is served over backends. -/
def Gateway.record {σ : Type} (backends : Backends σ) (gateway : Gateway) (draw : Draw)
    (request : Request) (state : σ) : Entry :=
  let served := gateway.step backends draw request state
  { gateway, draw, request, exchanges := gateway.exchanges backends draw request state
    answer := served.answer, after := served.gateway }

namespace Entry

/-- What the request wanted. -/
def intent (entry : Entry) : Intent := entry.gateway.intent entry.draw entry.request

/-- The request created a resource under a name that was not in use. -/
structure Creates (resource : Resource) (entry : Entry) : Prop where
  asked : ∃ check, entry.intent = .create check resource
  fresh : entry.gateway.find? resource.kind resource.name = none
  answered : entry.answer = .ok resource.answer

/-- The request deleted what was stored under a name. -/
structure Deletes (kind : Kind) (name : String) (entry : Entry) : Prop where
  asked : ∃ deletion, entry.intent = .delete kind deletion ∧ deletion.name = name
  answered : entry.answer = .ok .deleted

end Entry

section Records

variable {σ : Type} {gateway : Gateway} {backends : Backends σ} {draw : Draw} {request : Request}
  {state : σ} {resource : Resource}

theorem Gateway.creates_of_find? {new : Resource}
    (hcreate : gateway.intent draw request = .create (.ok ()) new)
    (hfresh : gateway.find? new.kind new.name = none)
    (hnew : (gateway.step backends draw request state).gateway.find? new.kind new.name =
      some new) : (gateway.record backends draw request state).Creates new := by
  refine ⟨⟨_, hcreate⟩, hfresh, ?_⟩
  change (gateway.step backends draw request state).answer = .ok new.answer
  cases hanswer : (gateway.step backends draw request state).answer with
  | error error =>
    rw [gateway_of_error hanswer, hfresh] at hnew
    exact nomatch hnew
  | ok answer =>
    obtain ⟨undertaking, hdecision, rfl, -⟩ := decide_of_answer hanswer
    rw [hcreate] at hdecision
    obtain ⟨-, ⟨existing, hfound, -⟩ | ⟨-, calls, -, rfl⟩⟩ := decide_create hdecision
    · rw [hfresh] at hfound
      exact nomatch hfound
    · rfl

/-- **A resource is created by its own calls**, and all of them succeed. -/
theorem Gateway.exchanges_of_creates
    (h : (gateway.record backends draw request state).Creates resource) :
    ∃ calls, gateway.realization resource = .ok calls ∧
      (gateway.exchanges backends draw request state).map Exchange.question = calls ∧
      (∀ exchange ∈ gateway.exchanges backends draw request state, exchange.succeeded) ∧
      (gateway.step backends draw request state).gateway = gateway.put resource := by
  obtain ⟨⟨check, hcreate⟩, hfresh, hanswer⟩ := h
  change gateway.intent draw request = .create check resource at hcreate
  change gateway.find? resource.kind resource.name = none at hfresh
  change (gateway.step backends draw request state).answer = .ok resource.answer at hanswer
  obtain ⟨undertaking, hdecision, -, hafter⟩ := decide_of_answer hanswer
  rw [hcreate] at hdecision
  obtain ⟨rfl, ⟨existing, hfound, -⟩ | ⟨-, calls, hcalls, rfl⟩⟩ := decide_create hdecision
  · rw [hfresh] at hfound
    exact nomatch hfound
  · have hstored : (gateway.step backends draw request state).gateway.find? resource.kind
        resource.name = some resource := by
      rw [hafter]
      exact (find?_put ..).trans (if_pos ⟨rfl, rfl⟩)
    obtain ⟨hmade, hall⟩ :=
      (find?_create_iff backends state { name := "" } hcreate hfresh hcalls).2.mp hstored
    exact ⟨calls, hcalls, (questions_exchanges ..).trans hmade, hall, hafter⟩

theorem Gateway.find?_of_deletes {kind : Kind} {name : String}
    (h : (gateway.record backends draw request state).Deletes kind name) :
    (gateway.step backends draw request state).gateway.find? kind name = none := by
  obtain ⟨⟨deletion, hdelete, rfl⟩, hanswer⟩ := h
  exact find?_of_deleted hdelete hanswer

/-- **A stored resource is deleted by taking it down**, and all of these calls succeed. -/
theorem Gateway.exchanges_of_deletes (sound : gateway.Sound) (hmem : resource ∈ gateway.resources)
    (h : (gateway.record backends draw request state).Deletes resource.kind resource.name) :
    (gateway.exchanges backends draw request state).map Exchange.question =
        resource.teardown gateway.settings ∧
      ∀ exchange ∈ gateway.exchanges backends draw request state, exchange.succeeded := by
  have hgone := find?_of_deletes h
  obtain ⟨⟨deletion, hdelete, hname⟩, -⟩ := h
  obtain ⟨hmade, hall⟩ :=
    (find?_delete_iff sound backends state { name := "" } hmem hdelete hname).2.mp hgone
  exact ⟨(questions_exchanges ..).trans hmade, hall⟩

theorem Gateway.kept_of_not_deletes (sound : gateway.Sound) (hmem : resource ∈ gateway.resources)
    (h : ¬ (gateway.record backends draw request state).Deletes resource.kind resource.name) :
    resource ∈ (gateway.step backends draw request state).gateway.resources := by
  rcases step_keeps sound hmem backends draw request state with
    hstays | ⟨deletion, hdelete, hname, hanswer⟩
  · exact hstays
  · exact absurd ⟨⟨deletion, hdelete, hname⟩, hanswer⟩ h

end Records

/-! ## Journals -/

/-- A gateway and the entries of all requests since its start, whatever backends served them. -/
inductive Journal (settings : Settings) : Gateway → List Entry → Prop where
  | start : Journal settings { settings } []
  | serve {σ : Type} {gateway : Gateway} {entries : List Entry}
      (journal : Journal settings gateway entries) (backends : Backends σ) (draw : Draw)
      (request : Request) (state : σ) :
      Journal settings (gateway.step backends draw request state).gateway
        (entries ++ [gateway.record backends draw request state])

namespace Journal

variable {settings : Settings} {gateway : Gateway} {entries : List Entry} {resource : Resource}

theorem reachable (h : Journal settings gateway entries) : gateway.Reachable settings := by
  induction h with
  | start => exact .fresh
  | serve journal backends draw request state ih => exact .step ih backends draw request state

theorem record_of_mem (h : Journal settings gateway entries) {entry : Entry}
    (hmem : entry ∈ entries) :
    ∃ (σ : Type) (backends : Backends σ) (state : σ), entry.gateway.Reachable settings ∧
      entry = entry.gateway.record backends entry.draw entry.request state := by
  induction h with
  | start => exact absurd hmem List.not_mem_nil
  | serve journal backends draw request state ih =>
    rcases List.mem_append.mp hmem with hearlier | hlast
    · exact ih hearlier
    · rw [List.mem_singleton] at hlast
      subst hlast
      exact ⟨_, backends, state, journal.reachable, rfl⟩

theorem calls_of_creates (h : Journal settings gateway entries) {entry : Entry}
    (hmem : entry ∈ entries) (hcreates : entry.Creates resource) :
    entry.gateway.realization resource = .ok entry.calls ∧
      (∀ exchange ∈ entry.exchanges, exchange.succeeded) ∧
      entry.after = entry.gateway.put resource := by
  obtain ⟨σ, backends, state, -, hrecord⟩ := h.record_of_mem hmem
  rw [hrecord] at hcreates ⊢
  obtain ⟨calls, hcalls, rfl, hall, hafter⟩ := Gateway.exchanges_of_creates hcreates
  exact ⟨hcalls, hall, hafter⟩

theorem calls_of_deletes (h : Journal settings gateway entries) {entry : Entry}
    (hmem : entry ∈ entries) (hstored : resource ∈ entry.gateway.resources)
    (hdeletes : entry.Deletes resource.kind resource.name) :
    entry.calls = resource.teardown settings ∧
      ∀ exchange ∈ entry.exchanges, exchange.succeeded := by
  obtain ⟨σ, backends, state, hreachable, hrecord⟩ := h.record_of_mem hmem
  rw [hrecord] at hdeletes ⊢
  rw [← hreachable.settings_eq]
  exact Gateway.exchanges_of_deletes hreachable.sound hstored hdeletes

/-- **Every stored resource was created, and not deleted since.** -/
theorem created (h : Journal settings gateway entries) (hmem : resource ∈ gateway.resources) :
    ∃ past entry later, entries = past ++ entry :: later ∧ entry.Creates resource ∧
      ∀ other ∈ later, ¬ other.Deletes resource.kind resource.name := by
  induction h with
  | start => exact absurd hmem List.not_mem_nil
  | @serve σ gateway entries journal backends draw request state ih =>
    have hstored := Gateway.mem_resources_iff.mp hmem
    have hchange := Gateway.step_change journal.reachable.sound backends draw request state
    rcases hchange.find?_cases resource.kind resource.name with
      hsame | ⟨new, hcreate, hkind, hname, hfresh, hnew⟩ | ⟨-, -, -, hgone⟩
    · obtain ⟨past, entry, later, rfl, hcreates, hkept⟩ :=
        ih (Gateway.mem_resources_iff.mpr (hsame.symm.trans hstored))
      refine ⟨past, entry, later ++ [gateway.record backends draw request state], by simp,
        hcreates, fun other hother => ?_⟩
      rcases List.mem_append.mp hother with hearlier | hlast
      · exact hkept other hearlier
      · intro hdeletes
        rw [List.mem_singleton.mp hlast] at hdeletes
        have hgone := Gateway.find?_of_deletes hdeletes
        exact nomatch hgone.symm.trans hstored
    · obtain rfl := Option.some.inj (hnew.symm.trans hstored)
      exact ⟨entries, _, [], rfl, Gateway.creates_of_find? hcreate hfresh hnew,
        fun _ hother => absurd hother List.not_mem_nil⟩
    · exact nomatch hgone.symm.trans hstored

/-- In a journal with one more entry, an earlier place is the new entry or lies before it. -/
theorem append_singleton_cases {past later : List Entry} {entry last : Entry}
    (h : entries ++ [last] = past ++ entry :: later) :
    later = [] ∧ entries = past ∧ last = entry ∨
      ∃ earlier, later = earlier ++ [last] ∧ entries = past ++ entry :: earlier := by
  rcases later.eq_nil_or_concat with rfl | ⟨earlier, other, rfl⟩
  · obtain ⟨hbefore, hsame⟩ := List.append_inj' h rfl
    exact .inl ⟨rfl, hbefore, List.head_eq_of_cons_eq hsame⟩
  · rw [List.concat_eq_append, ← List.cons_append, ← List.append_assoc] at h
    obtain ⟨hbefore, hsame⟩ := List.append_inj' h rfl
    obtain rfl := List.head_eq_of_cons_eq hsame
    exact .inr ⟨earlier, List.concat_eq_append, hbefore⟩

/-- What came before an entry is the journal of the gateway that its request came to. -/
theorem prior (h : Journal settings gateway entries) {past later : List Entry} {entry : Entry}
    (hentries : entries = past ++ entry :: later) : Journal settings entry.gateway past := by
  induction h generalizing later with
  | start => exact absurd hentries (by simp)
  | @serve σ gateway entries journal backends draw request state ih =>
    obtain ⟨-, rfl, rfl⟩ | ⟨earlier, -, hbefore⟩ := append_singleton_cases hentries
    · exact journal
    · exact ih hbefore

/-- **What was stored after an entry and not deleted since is still stored.** -/
theorem kept_after (h : Journal settings gateway entries) {past later : List Entry}
    {entry : Entry} (hentries : entries = past ++ entry :: later)
    (hmem : resource ∈ entry.after.resources)
    (hkept : ∀ other ∈ later, ¬ other.Deletes resource.kind resource.name) :
    resource ∈ gateway.resources := by
  induction h generalizing later with
  | start => exact absurd hentries (by simp)
  | @serve σ gateway entries journal backends draw request state ih =>
    obtain ⟨-, -, rfl⟩ | ⟨earlier, rfl, hbefore⟩ := append_singleton_cases hentries
    · exact hmem
    · -- the last request came to a gateway that had the resource, and does not delete it
      have hstored := ih hbefore fun other hother => hkept other (List.mem_append_left _ hother)
      exact Gateway.kept_of_not_deletes journal.reachable.sound hstored (hkept _ (by simp))

/-- What was stored at an entry and not deleted from there on is still stored. -/
theorem kept (h : Journal settings gateway entries) {past later : List Entry} {entry : Entry}
    (hentries : entries = past ++ entry :: later) (hmem : resource ∈ entry.gateway.resources)
    (hkept : ∀ other ∈ entry :: later, ¬ other.Deletes resource.kind resource.name) :
    resource ∈ gateway.resources := by
  refine h.kept_after hentries ?_ fun other hother => hkept other (List.mem_cons_of_mem _ hother)
  have hentry : entry ∈ entries := by simp [hentries]
  obtain ⟨σ, backends, state, hreachable, hrecord⟩ := h.record_of_mem hentry
  have hstays := hkept entry List.mem_cons_self
  rw [hrecord] at hstays ⊢
  exact Gateway.kept_of_not_deletes hreachable.sound hmem hstays

end Journal

end EvpnGateway
