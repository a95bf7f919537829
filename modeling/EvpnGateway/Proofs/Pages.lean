import EvpnGateway.Paging
import EvpnGateway.Proofs.Ids
/-!
# Laws of pages

* `ListRequest.limit`: the longest page that a request can get;
* `PageTokens.offset?`: where the page of a token begins; **`offset?_issue`**: new tokens leave the
  others as they are; `issueNext`: the tokens after a page was cut;
* **`paginate_of_offset?`**: the page that begins there, and whether a token comes with it;
* `Listing.map`, `paginate_map`: pages of items of another kind.
-/

namespace EvpnGateway

variable {α β : Type} {tokens after : PageTokens} {request : ListRequest} {token : String}
  {offset : Nat} {fresh : Uuid} {items : List α} {listing : Listing α}

/-- The longest page that a request can get: it asks for some size, of which it gets 250 at most,
or leaves it at 50. -/
def ListRequest.limit (request : ListRequest) : Nat :=
  if request.pageSize = 0 then 50 else min request.pageSize.toNat 250

theorem ListRequest.limit_pos (h : 0 ≤ request.pageSize) : 0 < request.limit := by
  unfold limit
  split_ifs with hzero
  · decide
  · omega

/-- The items of a listing replaced. -/
def Listing.map (f : α → β) (listing : Listing α) : Listing β :=
  ⟨listing.items.map f, listing.nextToken⟩

namespace Listing

/-- The listing of the items from an offset on, with the token of the next page if items remain. -/
def cut (items : List α) (offset limit : Nat) (next : String) : Listing α :=
  ⟨(items.drop offset).take limit, if offset + limit < items.length then next else ""⟩

theorem length_items_cut (items : List α) (offset limit : Nat) (next : String) :
    (cut items offset limit next).items.length = min limit (items.length - offset) := by
  simp [cut]

theorem nextToken_cut_eq_empty_iff (items : List α) (offset limit : Nat) {next : String}
    (h : next ≠ "") :
    (cut items offset limit next).nextToken = "" ↔ items.length ≤ offset + limit := by
  unfold cut
  split_ifs with hmore
  · simp [h, hmore]
  · simpa using hmore

theorem take_append_cut (items : List α) (offset limit : Nat) (next : String) :
    items.take offset ++ (cut items offset limit next).items = items.take (offset + limit) :=
  List.take_add.symm

end Listing

namespace PageTokens

/-- Where the page of a token begins, for tokens that were issued and the empty one. -/
def offset? (tokens : PageTokens) (token : String) : Option Nat :=
  if token.isEmpty then some 0 else tokens.offsets.lookup token

theorem pageSize_of_nonneg (h : 0 ≤ request.pageSize) :
    pageSize request.pageSize = .ok request.limit := by
  unfold pageSize ListRequest.limit defaultPageSize maxPageSize
  rw [if_neg (not_lt.mpr h)]
  split_ifs <;> rfl

theorem extract_of_offset? (hsize : 0 ≤ request.pageSize)
    (hoffset : tokens.offset? request.pageToken = some offset) :
    tokens.extract request = .ok (request.limit, offset) := by
  unfold offset? at hoffset
  unfold extract
  rw [pageSize_of_nonneg hsize]
  split_ifs at hoffset with hempty
  · obtain rfl := Option.some.inj hoffset
    simp [hempty, bind, Except.bind, pure, Except.pure]
  · simp [hempty, hoffset, bind, Except.bind, pure, Except.pure]

/-- The tokens after a page was cut from some items: if items remain behind it a new token leads to
them. -/
def issueNext (tokens : PageTokens) (fresh : Uuid) (items : List α) (offset limit : Nat) :
    PageTokens :=
  if offset + limit < items.length then tokens.issue fresh.text (offset + limit) else tokens

/-- **A page is cut where its token says.** No list is longer than can be counted. -/
theorem paginate_of_offset? (fresh : Uuid) (hsize : 0 ≤ request.pageSize)
    (hoffset : tokens.offset? request.pageToken = some offset)
    (hcounted : items.length ≤ maxOffset) :
    tokens.paginate fresh items request =
      .ok (.cut items offset request.limit fresh.text,
        tokens.issueNext fresh items offset request.limit) := by
  have hrest : min (offset + request.limit) maxOffset < items.length ↔
      offset + request.limit < items.length := by omega
  unfold paginate
  rw [extract_of_offset? hsize hoffset]
  simp only [bind, Except.bind, cutPage, hrest, Listing.cut, issueNext]
  split_ifs with hmore <;> simp [hmore, pure, Except.pure]

/-- A page that a request gets has some size, and it begins at the start or where a token says. -/
theorem extract_eq_ok {size : Nat} (h : tokens.extract request = .ok (size, offset)) :
    0 < size ∧ size ≤ maxPageSize ∧
      (offset = 0 ∨ ∃ token, (token, offset) ∈ tokens.offsets) := by
  obtain ⟨size', hsize, hrest⟩ := ok_of_bind h
  have hlimits : 0 < size' ∧ size' ≤ maxPageSize := by
    unfold pageSize at hsize
    split_ifs at hsize with hneg hzero
    · exact nomatch hsize
    · obtain rfl := Except.ok.inj hsize
      decide
    · obtain rfl := Except.ok.inj hsize
      exact ⟨by unfold maxPageSize; omega, Nat.min_le_right ..⟩
  split_ifs at hrest
  · obtain ⟨rfl, rfl⟩ := Prod.mk.inj (Except.ok.inj hrest)
    exact ⟨hlimits.1, hlimits.2, .inl rfl⟩
  · cases hlookup : tokens.offsets.lookup request.pageToken with
    | none =>
      rw [hlookup] at hrest
      exact nomatch hrest
    | some found =>
      rw [hlookup] at hrest
      obtain ⟨rfl, rfl⟩ := Prod.mk.inj (Except.ok.inj hrest)
      obtain ⟨before, behind, hoffsets, -⟩ := List.lookup_eq_some_iff.mp hlookup
      exact ⟨hlimits.1, hlimits.2, .inr ⟨request.pageToken, by simp [hoffsets]⟩⟩

/-- The new token is the only change. It comes with a page behind which items remain. -/
theorem tokens_paginate (h : tokens.paginate fresh items request = .ok (listing, after)) :
    after = tokens ∨ ∃ size offset, tokens.extract request = .ok (size, offset) ∧
      min (offset + size) maxOffset < items.length ∧ listing.nextToken = fresh.text ∧
      after = tokens.issue fresh.text (offset + size) := by
  obtain ⟨⟨size, offset⟩, hextract, hcut⟩ := ok_of_bind h
  simp only [cutPage] at hcut
  split at hcut <;> rename_i heq <;> obtain ⟨rfl, hmore⟩ := Prod.mk.inj heq <;>
    obtain ⟨rfl, rfl⟩ := Prod.mk.inj (Except.ok.inj hcut)
  · exact .inr ⟨size, offset, hextract, of_decide_eq_true hmore, rfl, rfl⟩
  · exact .inl rfl

theorem items_paginate (h : tokens.paginate fresh items request = .ok (listing, after)) :
    listing.items ⊆ items := by
  obtain ⟨⟨size, offset⟩, -, hcut⟩ := ok_of_bind h
  have hsub : (items.drop offset).take size ⊆ items := fun item hmem =>
    List.mem_of_mem_drop (List.mem_of_mem_take hmem)
  simp only [cutPage] at hcut
  split at hcut <;> rename_i heq <;> obtain ⟨rfl, -⟩ := Prod.mk.inj heq <;>
    obtain ⟨rfl, -⟩ := Prod.mk.inj (Except.ok.inj hcut) <;> exact hsub

theorem paginate_map (f : α → β) :
    tokens.paginate fresh (items.map f) request =
      (tokens.paginate fresh items request).map (Prod.map (Listing.map f) id) := by
  unfold paginate
  cases tokens.extract request with
  | error error => rfl
  | ok window =>
    simp only [bind, Except.bind, cutPage, List.length_map, ← List.map_drop, ← List.map_take]
    cases decide (min (window.2 + window.1) maxOffset < items.length) <;> rfl

/-- **A token keeps its offset when another is issued.** -/
theorem offset?_issue {other : String} (behind : Nat) (hfresh : tokens.offsets.lookup other = none)
    (h : tokens.offset? token = some offset) :
    (tokens.issue other behind).offset? token = some offset := by
  unfold offset? issue at *
  split_ifs at h ⊢ with hempty
  · exact h
  · have hother : (token == other) = false := by
      rw [beq_eq_false_iff_ne]
      rintro rfl
      exact nomatch hfresh.symm.trans h
    rw [List.lookup_cons, hother]
    exact h

theorem offset?_issueNext (hfresh : tokens.offsets.lookup fresh.text = none)
    (h : tokens.offset? token = some offset) (start limit : Nat) :
    (tokens.issueNext fresh items start limit).offset? token = some offset := by
  unfold issueNext
  split_ifs
  · exact offset?_issue _ hfresh h
  · exact h

theorem offset?_issue_self (fresh : Uuid) (offset : Nat) :
    (tokens.issue fresh.text offset).offset? fresh.text = some offset := by
  have hempty : ¬ fresh.text.isEmpty := by
    rw [String.isEmpty_iff]
    exact (isUuidText_text fresh).ne_empty
  rw [offset?, if_neg hempty, issue, List.lookup_cons, beq_self_eq_true]

end PageTokens

end EvpnGateway
