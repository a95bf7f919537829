import EvpnGateway.Proofs.Journal
import EvpnGateway.Proofs.Walks
/-!
# Offsets of pages

The end of a page is counted up to a largest offset when the page is cut, and without a limit when
its token is issued. Neither makes a difference: where a token leads to lies inside the list that it
was issued for, and so no sum of an offset and a size comes near the limit.

* `itemsBetween`: the items of a page by their positions; **`cutPage_eq`**: a page that is cut;
* `Entry.Mints`: requests that issued a token; `Gateway.step_mints`: the only change of the tokens;
* **`Journal.minted`**: every offset lies inside the list that it was issued for;
* **`Journal.offsets_exact`**.
-/

namespace EvpnGateway

/-! ## Items by their positions -/

section Positions

variable {α : Type}

/-- The items at the positions from an offset on, up to the sum of offset and size. -/
def itemsBetween (items : List α) (offset size : Nat) : List α :=
  (items.zipIdx.filter fun (_, position) =>
    offset ≤ position && position < offset + size).map Prod.fst

theorem map_fst_filter_zipIdx (items : List α) (start offset size : Nat) :
    ((items.zipIdx start).filter fun (_, position) =>
        offset ≤ position && position < offset + size).map Prod.fst =
      (items.drop (offset - start)).take (offset + size - max offset start) := by
  induction items generalizing start with
  | nil => simp
  | cons item items ih =>
    rw [List.zipIdx_cons, List.filter_cons]
    -- the first item lies before the page, on it or behind it
    by_cases hbefore : start < offset
    · have hdrop : offset - start = offset - (start + 1) + 1 := by omega
      have hmax : max offset start = max offset (start + 1) := by omega
      rw [if_neg (by simp; omega), ih, hdrop, List.drop_succ_cons, hmax]
    · have hrest := ih (start + 1)
      rw [show offset - (start + 1) = 0 by omega, List.drop_zero] at hrest
      rw [show offset - start = 0 by omega, List.drop_zero]
      by_cases hinside : start < offset + size
      · have htake : offset + size - max offset start =
            offset + size - max offset (start + 1) + 1 := by omega
        rw [if_pos (by simp; omega), List.map_cons, hrest, htake, List.take_succ_cons]
      · have htake : offset + size - max offset start = 0 := by omega
        have htake' : offset + size - max offset (start + 1) = 0 := by omega
        rw [if_neg (by simp; omega), hrest, htake, htake', List.take_zero, List.take_zero]

/-- The items before the page and those behind it have other positions. -/
theorem itemsBetween_eq (items : List α) (offset size : Nat) :
    itemsBetween items offset size = (items.drop offset).take size := by
  have hsize : offset + size - max offset 0 = size := by omega
  rw [itemsBetween, map_fst_filter_zipIdx, hsize, Nat.sub_zero]

/-- **A page shows what is at its positions**, and items remain if there are any behind them. -/
theorem cutPage_eq {items : List α} (h : items.length ≤ maxOffset) (offset size : Nat) :
    cutPage items offset size =
      (itemsBetween items offset size, decide (offset + size < items.length)) := by
  have hrest : min (offset + size) maxOffset < items.length ↔ offset + size < items.length := by
    omega
  rw [cutPage, itemsBetween_eq]
  simp only [hrest]

end Positions

/-! ## Tokens and what they were issued for -/

/-- The request was answered with a page of a kind whose token leads to an offset. -/
structure Entry.Mints (kind : Kind) (token : String) (offset : Nat) (entry : Entry) : Prop where
  asked : ∃ listing, entry.intent = .list kind listing
  answered : ∃ answer page, entry.answer = .ok answer ∧ answer.listing? = some page ∧
    page.nextToken = token
  recorded : entry.after.tokens = entry.gateway.tokens.issue token offset

/-- No kind has so many stored resources that they cannot be counted in 63 bits. -/
def Gateway.Countable (gateway : Gateway) : Prop :=
  ∀ kind, (gateway.entries kind).length < 0x8000000000000000

namespace Gateway

variable {σ : Type} {gateway : Gateway} {kind : Kind}

theorem Countable.le_maxOffset (h : gateway.Countable) (kind : Kind) :
    (gateway.entries kind).length ≤ maxOffset := by
  have := h kind
  unfold maxOffset
  omega

/-- **A new token leads to a place inside the list that it was issued for.** Nothing else changes
the tokens. -/
theorem step_mints (h : gateway.Countable) (backends : Backends σ) (draw : Draw)
    (request : Request) (state : σ) :
    (gateway.step backends draw request state).gateway.tokens = gateway.tokens ∨
      ∃ kind token offset, (gateway.record backends draw request state).Mints kind token offset ∧
        0 < offset ∧ offset < (gateway.entries kind).length := by
  rcases step_tokens backends gateway draw request state with hsame | ⟨kind, offset, hissues⟩
  · exact .inl hsame
  · have hcounted := h.le_maxOffset kind
    have hinside := hissues.inside
    exact .inr ⟨kind, draw.token.text, offset,
      ⟨hissues.asked, hissues.answered, hissues.recorded⟩, hissues.pos, by omega⟩

end Gateway

namespace Journal

variable {settings : Settings} {gateway : Gateway} {entries : List Entry} {token : String}
  {offset : Nat}

/-- **Every offset lies inside the list that its token was issued for.** -/
theorem minted (h : Journal settings gateway entries)
    (hcountable : ∀ entry ∈ entries, entry.gateway.Countable)
    (hmem : (token, offset) ∈ gateway.tokens.offsets) :
    ∃ entry ∈ entries, ∃ kind, entry.Mints kind token offset ∧ 0 < offset ∧
      offset < (entry.gateway.entries kind).length := by
  induction h with
  | start => exact absurd hmem List.not_mem_nil
  | @serve σ gateway entries journal backends draw request state ih =>
    -- only the last request can have recorded what was not recorded before it
    have hlast : gateway.Countable :=
      hcountable (gateway.record backends draw request state) (by simp)
    have hearlier : (token, offset) ∈ gateway.tokens.offsets →
        ∃ entry ∈ entries ++ [gateway.record backends draw request state], ∃ kind,
          entry.Mints kind token offset ∧ 0 < offset ∧
            offset < (entry.gateway.entries kind).length := fun hold => by
      obtain ⟨entry, hentry, hminted⟩ :=
        ih (fun entry hentry => hcountable entry (List.mem_append_left _ hentry)) hold
      exact ⟨entry, List.mem_append_left _ hentry, hminted⟩
    rcases Gateway.step_mints hlast backends draw request state with
      hsame | ⟨kind, new, place, hmints, hplace⟩
    · exact hearlier (hsame ▸ hmem)
    · have hissued : (gateway.step backends draw request state).gateway.tokens =
          gateway.tokens.issue new place := hmints.recorded
      rw [hissued] at hmem
      rcases List.mem_cons.mp hmem with hnew | hold
      · obtain ⟨rfl, rfl⟩ := Prod.mk.inj hnew
        exact ⟨_, by simp, kind, hmints, hplace⟩
      · exact hearlier hold

/-- **Pages are cut exactly.** A page of a list that can be counted in 63 bits shows the items
between its offset and its end, and items remain if the end lies inside the list. Whatever requests
a gateway has served, every offset lies inside the list that its token was issued for, and no page
that a request may ask for ends behind the largest offset. -/
theorem offsets_exact (h : Journal settings gateway entries)
    (hcountable : ∀ entry ∈ entries, entry.gateway.Countable) :
    (∀ {α : Type} (items : List α) (offset size : Nat), items.length < 0x8000000000000000 →
      cutPage items offset size =
        (itemsBetween items offset size, decide (offset + size < items.length))) ∧
    (∀ token offset, (token, offset) ∈ gateway.tokens.offsets →
      ∃ entry ∈ entries, ∃ kind, entry.Mints kind token offset ∧ 0 < offset ∧
        offset < (entry.gateway.entries kind).length) ∧
    ∀ request size offset, gateway.tokens.extract request = .ok (size, offset) →
      offset + size ≤ maxOffset := by
  refine ⟨fun items offset size hlength => cutPage_eq (by unfold maxOffset; omega) offset size,
    fun token offset hmem => h.minted hcountable hmem, fun request size offset hextract => ?_⟩
  obtain ⟨-, hsize, rfl | ⟨token, hmem⟩⟩ := PageTokens.extract_eq_ok hextract
  · unfold maxOffset maxPageSize at *
    omega
  · obtain ⟨entry, hentry, kind, -, -, hplace⟩ := h.minted hcountable hmem
    have hlength := hcountable entry hentry kind
    unfold maxOffset maxPageSize at *
    omega

/-- The first of two pages of VRFs, both just created. -/
theorem offsets_exact_blue :
    let draw : Draw := ⟨⟨0, 0⟩, .zero, ⟨0, 1⟩⟩
    let list : Request := .listVrfs { pageSize := 1 }
    let one := ({} : Gateway).step Simulation.backends draw (.createVrf "blue" {}) {}
    let two := one.gateway.step Simulation.backends draw (.createVrf "red1" {}) one.backends
    let three := two.gateway.step Simulation.backends draw list two.backends
    let entries := [({} : Gateway).record Simulation.backends draw (.createVrf "blue" {}) {},
      one.gateway.record Simulation.backends draw (.createVrf "red1" {}) one.backends,
      two.gateway.record Simulation.backends draw list two.backends]
    Journal {} three.gateway entries ∧
      (draw.token.text, 1) ∈ three.gateway.tokens.offsets ∧
      (∃ entry ∈ entries, ∃ kind, entry.Mints kind draw.token.text 1 ∧
        1 < (entry.gateway.entries kind).length) ∧
      cutPage [1, 2, 3] 1 maxOffset = (itemsBetween [1, 2, 3] 1 maxOffset, false) := by
  intro draw list one two three entries
  have journal : Journal {} three.gateway entries :=
    .serve (.serve (.serve .start Simulation.backends draw (.createVrf "blue" {}) {})
      Simulation.backends draw (.createVrf "red1" {}) one.backends) Simulation.backends draw list
      two.backends
  have hcountable : ∀ entry ∈ entries, entry.gateway.Countable := by
    intro entry hentry kind
    simp only [entries, List.mem_cons, List.not_mem_nil, or_false] at hentry
    rcases hentry with rfl | rfl | rfl <;> cases kind <;> decide +kernel
  have hissued : (draw.token.text, 1) ∈ three.gateway.tokens.offsets := by decide +kernel
  obtain ⟨hcut, hminted, -⟩ := journal.offsets_exact hcountable
  obtain ⟨entry, hentry, kind, hmints, -, hplace⟩ := hminted _ _ hissued
  exact ⟨journal, hissued, ⟨entry, hentry, kind, hmints, hplace⟩, hcut _ _ _ (by decide)⟩

end Journal

end EvpnGateway
