import EvpnGateway.Backend.Simulation
import EvpnGateway.Proofs.Reachable
/-!
# Walks through listings

A walk asks for one page of a kind after the other, each with the token that came with the page
before it. In between the gateway serves other requests, which may issue tokens of their own.

* `Issues`, `step_tokens`: a request issues one token at most, with a page that is not the last;
  `step_list`: the page behind a known token;
* `Page`, `resumption?`, `shown`: the pages of a walk, how it goes on and what it has shown;
* `Trail`: the pages cover a beginning of the entries, and their tokens lead to them again;
  **`Trail.issue`**, **`Trail.append`**: other tokens do no harm, and the next page fits;
* `Walk`, **`Walk.pages_complete`**.
-/

namespace EvpnGateway

/-- The page that a request was answered with. -/
def Gateway.Served.listing? {σ : Type} (served : Served σ) : Option (Listing Resource) :=
  match served.answer with
  | .ok answer => answer.listing?
  | .error _ => none

namespace Gateway

variable {σ : Type} {gateway : Gateway} {draw : Draw} {request : Request} {intent : Intent}
  {undertaking : Undertaking} {listing : ListRequest} {kind : Kind} {offset : Nat}

/-! ## Tokens -/

/-- The token that is drawn was not issued before. -/
def FreshToken (gateway : Gateway) (draw : Draw) : Prop :=
  gateway.tokens.offsets.lookup draw.token.text = none

theorem decide_tokens (h : gateway.decide draw intent = .ok undertaking) :
    undertaking.after.tokens = gateway.tokens ∨ ∃ kind listing, intent = .list kind listing := by
  cases intent with
  | create check new =>
    obtain ⟨-, ⟨existing, -, rfl⟩ | ⟨-, calls, -, rfl⟩⟩ := decide_create h
    · exact .inl rfl
    · exact .inl tokens_put
  | update requested =>
    obtain ⟨existing, -, rfl⟩ := decide_update h
    rw [after_renew]
    exact .inl tokens_put
  | get kind name =>
    obtain ⟨existing, -, rfl⟩ := decide_get h
    exact .inl rfl
  | delete kind deletion =>
    obtain ⟨existing, -, rfl⟩ | ⟨-, rfl⟩ := decide_delete h
    · exact .inl tokens_drop
    · exact .inl rfl
  | list kind listing => exact .inr ⟨kind, listing, rfl⟩

/-- The request was answered with a page of a kind, and a token was issued for what is behind it. -/
structure Issues (gateway : Gateway) (draw : Draw) (request : Request) (served : Served σ)
    (kind : Kind) (offset : Nat) : Prop where
  asked : ∃ listing, gateway.intent draw request = .list kind listing
  answered : ∃ answer page, served.answer = .ok answer ∧ answer.listing? = some page ∧
    page.nextToken = draw.token.text
  recorded : served.gateway.tokens = gateway.tokens.issue draw.token.text offset
  /-- The page was not empty. -/
  pos : 0 < offset
  inside : min offset maxOffset < (gateway.entries kind).length

/-- **A request issues one token at most**, the one that is drawn for it. -/
theorem step_tokens (backends : Backends σ) (gateway : Gateway) (draw : Draw) (request : Request)
    (state : σ) :
    (gateway.step backends draw request state).gateway.tokens = gateway.tokens ∨
      ∃ kind offset,
        gateway.Issues draw request (gateway.step backends draw request state) kind offset := by
  cases step_course backends gateway draw request state with
  | refused error decision answer same silent => exact .inl (by rw [same])
  | failed undertaking before call error decision answer same last passed =>
    exact .inl (by rw [same])
  | done undertaking decision answer after passed =>
    rcases decide_tokens decision with hsame | ⟨kind, listing, hlist⟩
    · exact .inl (by rw [after, hsame])
    · rw [hlist] at decision
      obtain ⟨shown, page, tokens, rfl, hshown, hpage⟩ := decide_list decision
      obtain hsame | ⟨size, offset, hextract, hmore, hnext, hissued⟩ :=
        PageTokens.tokens_paginate hpage
      · exact .inl (by rw [after]; exact hsame)
      · have hpos := (PageTokens.extract_eq_ok hextract).1
        exact .inr ⟨kind, offset + size, ⟨listing, hlist⟩, ⟨shown, page, answer, hshown, hnext⟩,
          by rw [after]; exact hissued, by omega, hmore⟩

/-- **A request with a known token is answered with the page that begins there.** -/
theorem step_list (backends : Backends σ) (draw : Draw) (state : σ)
    (hsize : 0 ≤ listing.pageSize)
    (hoffset : gateway.tokens.offset? listing.pageToken = some offset)
    (hcounted : (gateway.entries kind).length ≤ maxOffset) :
    let served := gateway.step backends draw (Http.listRequest kind listing) state
    served.listing? =
        some (.cut (gateway.entries kind) offset listing.limit draw.token.text) ∧
      served.gateway.tokens =
        gateway.tokens.issueNext draw.token (gateway.entries kind) offset listing.limit := by
  have hpaged := paged_listing gateway draw listing kind
  rw [PageTokens.paginate_of_offset? draw.token hsize hoffset hcounted] at hpaged
  obtain ⟨⟨answer, tokens⟩, hok, heq⟩ := ok_of_map hpaged
  obtain ⟨hanswer, htokens⟩ := Prod.mk.inj heq
  have hdecision : gateway.decide draw (gateway.intent draw (Http.listRequest kind listing)) =
      .ok (.perform [] answer { gateway with tokens }) := by
    rw [intent_listRequest, decide, hok]
    rfl
  rw [step_undertaken backends state hdecision]
  exact ⟨hanswer, htokens⟩

end Gateway

/-! ## Pages in a row -/

/-- A page as it was asked for and as it was answered. -/
structure Page where
  request : ListRequest
  listing : Listing Resource

/-- The token that a walk goes on with: the empty one at its start, and none behind the last
page. -/
def resumption? (pages : List Page) : Option String :=
  match pages.getLast? with
  | none => some ""
  | some page => if page.listing.nextToken = "" then none else some page.listing.nextToken

/-- What some pages show. -/
def shown (pages : List Page) : List Resource := pages.flatMap fun page => page.listing.items

@[simp] theorem resumption?_append (pages : List Page) (page : Page) :
    resumption? (pages ++ [page]) =
      if page.listing.nextToken = "" then none else some page.listing.nextToken := by
  simp [resumption?]

@[simp] theorem shown_append (pages : List Page) (page : Page) :
    shown (pages ++ [page]) = shown pages ++ page.listing.items := by
  simp [shown]

/-- The page was cut from the entries where its token says. -/
def Page.Cut (entries : List Resource) (tokens : PageTokens) (page : Page) : Prop :=
  0 ≤ page.request.pageSize ∧ ∃ offset next,
    tokens.offset? page.request.pageToken = some offset ∧ next ≠ "" ∧
      page.listing = .cut entries offset page.request.limit next

/-- Pages that follow each other through entries from their beginning. -/
structure Trail (entries : List Resource) (tokens : PageTokens) (pages : List Page) : Prop where
  covered : shown pages <+: entries
  cut : ∀ page ∈ pages, page.Cut entries tokens
  /-- Only the last page comes without a token. -/
  linked : ∀ page ∈ pages.dropLast, page.listing.nextToken ≠ ""
  count : pages.length ≤ max 1 entries.length
  /-- The token of the last page leads to the first entry that was not shown, and so far every page
  has shown one entry at least. -/
  unfinished : ∀ token, resumption? pages = some token →
    tokens.offset? token = some (shown pages).length ∧ pages.length ≤ (shown pages).length ∧
      (pages ≠ [] → (shown pages).length < entries.length)
  finished : resumption? pages = none → shown pages = entries

namespace Trail

variable {entries : List Resource} {tokens : PageTokens} {pages : List Page} {token : String}
  {fresh : Uuid}

theorem nil (entries : List Resource) (tokens : PageTokens) : Trail entries tokens [] where
  covered := List.nil_prefix
  cut _ hmem := absurd hmem List.not_mem_nil
  linked _ hmem := absurd hmem List.not_mem_nil
  count := Nat.zero_le _
  unfinished token h := by
    obtain rfl := Option.some.inj h
    exact ⟨rfl, Nat.zero_le _, fun hne => absurd rfl hne⟩
  finished h := nomatch h

/-- **Tokens that are issued for other pages do no harm.** -/
theorem issue (trail : Trail entries tokens pages) (offset : Nat)
    (hfresh : tokens.offsets.lookup token = none) :
    Trail entries (tokens.issue token offset) pages where
  covered := trail.covered
  cut page hmem := by
    obtain ⟨hsize, behind, next, hbehind, hcut⟩ := trail.cut page hmem
    exact ⟨hsize, behind, next, PageTokens.offset?_issue offset hfresh hbehind, hcut⟩
  linked := trail.linked
  count := trail.count
  unfinished other h := by
    obtain ⟨hresume, hcount⟩ := trail.unfinished other h
    exact ⟨PageTokens.offset?_issue offset hfresh hresume, hcount⟩
  finished := trail.finished

theorem nextToken_ne_empty (trail : Trail entries tokens pages)
    (hresumed : resumption? pages = some token) : ∀ page ∈ pages, page.listing.nextToken ≠ "" := by
  rcases pages.eq_nil_or_concat with rfl | ⟨earlier, last, rfl⟩
  · exact fun page hmem => absurd hmem List.not_mem_nil
  · rw [List.concat_eq_append] at hresumed ⊢
    rw [resumption?_append] at hresumed
    split_ifs at hresumed with hempty
    intro page hmem
    rcases List.mem_append.mp hmem with hmem | hmem
    · exact trail.linked page (by simpa using hmem)
    · rw [List.mem_singleton.mp hmem]
      exact hempty

theorem shown_append_cut (trail : Trail entries tokens pages) (request : ListRequest)
    (next : String) :
    shown (pages ++ [⟨request, .cut entries (shown pages).length request.limit next⟩]) =
      entries.take ((shown pages).length + request.limit) := by
  have hbefore := List.prefix_iff_eq_take.mp trail.covered
  rw [shown_append]
  nth_rewrite 1 [hbefore]
  exact Listing.take_append_cut ..

/-- **The next page fits**: it shows the entries behind those that were shown before. -/
theorem append {request : ListRequest} (trail : Trail entries tokens pages)
    (hresumed : resumption? pages = some request.pageToken) (hsize : 0 ≤ request.pageSize)
    (hfresh : tokens.offsets.lookup fresh.text = none) :
    Trail entries (tokens.issueNext fresh entries (shown pages).length request.limit)
      (pages ++ [⟨request, .cut entries (shown pages).length request.limit fresh.text⟩]) := by
  obtain ⟨hoffset, hlong, hroom⟩ := trail.unfinished _ hresumed
  have hlimit := ListRequest.limit_pos hsize
  have hnext : fresh.text ≠ "" := (isUuidText_text fresh).ne_empty
  have hcovered := trail.shown_append_cut request fresh.text
  have hlast := Listing.nextToken_cut_eq_empty_iff entries (shown pages).length request.limit hnext
  set offset := (shown pages).length
  set page : Page := ⟨request, .cut entries offset request.limit fresh.text⟩
  have hcut : ∀ other ∈ pages ++ [page], other.Cut entries tokens := by
    intro other hmem
    rcases List.mem_append.mp hmem with hmem | hmem
    · exact trail.cut other hmem
    · rw [List.mem_singleton.mp hmem]
      exact ⟨hsize, offset, fresh.text, hoffset, hnext, rfl⟩
  constructor
  case covered =>
    rw [hcovered]
    exact List.take_prefix _ _
  case cut =>
    intro other hmem
    obtain ⟨hother, behind, next, hbehind, hrest⟩ := hcut other hmem
    exact ⟨hother, behind, next, PageTokens.offset?_issueNext hfresh hbehind .., hrest⟩
  case linked =>
    rw [List.dropLast_concat]
    exact trail.nextToken_ne_empty hresumed
  case count =>
    rw [List.length_append, List.length_singleton]
    by_cases hnil : pages = []
    · simp [hnil]
    · have := hroom hnil
      omega
  case unfinished =>
    intro token htoken
    rw [resumption?_append] at htoken
    split_ifs at htoken with hempty
    have hmore : offset + request.limit < entries.length :=
      not_le.mp fun hle => hempty (hlast.mpr hle)
    obtain rfl := Option.some.inj htoken
    have htext : page.listing.nextToken = fresh.text := if_pos hmore
    rw [hcovered, List.length_take, min_eq_left hmore.le, htext, PageTokens.issueNext, if_pos hmore,
      List.length_append, List.length_singleton]
    exact ⟨PageTokens.offset?_issue_self fresh _, by omega, fun _ => hmore⟩
  case finished =>
    intro hdone
    rw [resumption?_append] at hdone
    split_ifs at hdone with hempty
    rw [hcovered, List.take_of_length_le (hlast.mp hempty)]

theorem nextToken_eq_empty_iff {last : Page} (trail : Trail entries tokens pages)
    (h : pages.getLast? = some last) : last.listing.nextToken = "" ↔ shown pages = entries := by
  have hresumption : resumption? pages =
      if last.listing.nextToken = "" then none else some last.listing.nextToken := by
    simp [resumption?, h]
  constructor
  · intro hempty
    rw [if_pos hempty] at hresumption
    exact trail.finished hresumption
  · intro hall
    by_contra hmore
    rw [if_neg hmore] at hresumption
    have hne : pages ≠ [] := by
      rintro rfl
      exact nomatch h
    have := (trail.unfinished _ hresumption).2.2 hne
    rw [hall] at this
    exact lt_irrefl _ this

theorem length_items (trail : Trail entries tokens pages) :
    ∀ page ∈ pages, page.listing.items.length ≤ page.request.limit ∧
      (page.listing.nextToken ≠ "" → page.listing.items.length = page.request.limit) := by
  intro page hmem
  obtain ⟨-, offset, next, -, hnext, hcut⟩ := trail.cut page hmem
  rw [hcut, Listing.length_items_cut, ne_eq, Listing.nextToken_cut_eq_empty_iff _ _ _ hnext]
  omega

end Trail

/-! ## Walks -/

/-- A walk through the listing of a kind: the pages so far and the gateway as it is now. Between
pages the gateway serves any other requests over any backends. All pages are taken from the same
entries, and no token is drawn twice. -/
inductive Walk (kind : Kind) (start : Gateway) : List Page → Gateway → Prop where
  | start : Walk kind start [] start
  | serve {σ : Type} {pages : List Page} {gateway : Gateway} (walk : Walk kind start pages gateway)
      (backends : Backends σ) (draw : Draw) (request : Request) (state : σ)
      (fresh : gateway.FreshToken draw) :
      Walk kind start pages (gateway.step backends draw request state).gateway
  | page {σ : Type} {pages : List Page} {gateway : Gateway} {request : ListRequest}
      {listing : Listing Resource} (walk : Walk kind start pages gateway)
      (unchanged : gateway.entries kind = start.entries kind)
      (resumed : resumption? pages = some request.pageToken) (valid : 0 ≤ request.pageSize)
      (backends : Backends σ) (draw : Draw) (state : σ) (fresh : gateway.FreshToken draw)
      (answered : (gateway.step backends draw (Http.listRequest kind request) state).listing? =
        some listing) :
      Walk kind start (pages ++ [⟨request, listing⟩])
        (gateway.step backends draw (Http.listRequest kind request) state).gateway

namespace Walk

variable {kind : Kind} {start gateway : Gateway} {pages : List Page}

/-- The pages of a walk are a trail through the entries that it began with. -/
theorem trail (walk : Walk kind start pages gateway)
    (counted : (start.entries kind).length ≤ maxOffset) :
    Trail (start.entries kind) gateway.tokens pages := by
  induction walk with
  | start => exact .nil _ _
  | serve walk backends draw request state fresh ih =>
    rcases Gateway.step_tokens backends _ draw request state with hsame | ⟨_, offset, hissues⟩
    · rw [hsame]
      exact ih
    · rw [hissues.recorded]
      exact ih.issue offset fresh
  | page walk unchanged resumed valid backends draw state fresh answered ih =>
    rw [← unchanged] at ih counted ⊢
    obtain ⟨hlisting, htokens⟩ := Gateway.step_list backends draw state valid
      (ih.unfinished _ resumed).1 counted
    obtain rfl := Option.some.inj (hlisting.symm.trans answered)
    rw [htokens]
    exact ih.append resumed valid fresh

/-- **Walks show every resource once, in the order of names.** What the pages show is a beginning of
the entries, which are the stored resources of the kind; there are no more than can be counted.
Pages are as long as they can be, but for the last; its token is empty, and it is empty exactly when
everything has been shown, after one page for every resource at most. As long as the entries are the
same an unfinished walk can go on, and the token of every page leads to it again. -/
theorem pages_complete (walk : Walk kind start pages gateway)
    (counted : (start.entries kind).length ≤ maxOffset) :
    ((start.entries kind).Pairwise (·.name < ·.name) ∧
      ∀ resource, resource ∈ start.entries kind ↔
        resource ∈ start.resources ∧ resource.kind = kind) ∧
    (shown pages <+: start.entries kind ∧ pages.length ≤ max 1 (start.entries kind).length) ∧
    (∀ page ∈ pages, page.listing.items.length ≤ page.request.limit ∧
      (page.listing.nextToken ≠ "" → page.listing.items.length = page.request.limit)) ∧
    (∀ page ∈ pages.dropLast, page.listing.nextToken ≠ "") ∧
    (∀ last, pages.getLast? = some last →
      (last.listing.nextToken = "" ↔ shown pages = start.entries kind)) ∧
    (gateway.entries kind = start.entries kind →
      ∀ {σ : Type} (backends : Backends σ) (draw : Draw) (state : σ),
        (∀ request : ListRequest, resumption? pages = some request.pageToken →
          0 ≤ request.pageSize → ∃ listing,
            (gateway.step backends draw (Http.listRequest kind request) state).listing? =
              some listing) ∧
        ∀ page ∈ pages, ∃ again,
          (gateway.step backends draw (Http.listRequest kind page.request) state).listing? =
            some again ∧
          again.items = page.listing.items ∧
          (again.nextToken = "" ↔ page.listing.nextToken = "")) := by
  have trail := walk.trail counted
  refine ⟨⟨start.pairwise_entries kind, fun resource => Gateway.mem_entries_iff⟩,
    ⟨trail.covered, trail.count⟩, trail.length_items, trail.linked,
    fun last hlast => trail.nextToken_eq_empty_iff hlast, fun unchanged σ backends draw state => ?_⟩
  rw [← unchanged] at trail counted
  refine ⟨fun request hresumed hsize => ?_, fun page hmem => ?_⟩
  · exact ⟨_, (Gateway.step_list backends draw state hsize (trail.unfinished _ hresumed).1
      counted).1⟩
  · obtain ⟨hsize, offset, next, hoffset, hnext, hcut⟩ := trail.cut page hmem
    have hdrawn : draw.token.text ≠ "" := (isUuidText_text draw.token).ne_empty
    refine ⟨_, (Gateway.step_list backends draw state hsize hoffset counted).1, ?_, ?_⟩
    · rw [hcut]
      rfl
    · rw [hcut, Listing.nextToken_cut_eq_empty_iff _ _ _ hdrawn,
        Listing.nextToken_cut_eq_empty_iff _ _ _ hnext]

/-- Two pages of three VRFs, and a page of bridges between them. -/
theorem pages_complete_blue :
    let vrf (id : String) : Resource := .vrf { name := fullName Kind.vrf.collection id }
    let start := ((({} : Gateway).put (vrf "red1")).put (vrf "blue")).put (vrf "green")
    let draw (low : UInt64) : Draw := ⟨⟨0, 0⟩, .zero, ⟨0, low⟩⟩
    let first : Page := ⟨⟨2, ""⟩, ⟨[vrf "blue", vrf "green"], (draw 1).token.text⟩⟩
    let second : Page := ⟨⟨0, (draw 1).token.text⟩, ⟨[vrf "red1"], ""⟩⟩
    (∃ gateway, Walk .vrf start [first, second] gateway) ∧ (start.entries .vrf).length ≤ maxOffset ∧
      shown [first, second] = start.entries .vrf := by
  intro vrf start draw first second
  have begun : Walk .vrf start [first] _ := .page .start rfl rfl (by decide) Simulation.backends
    (draw 1) {} rfl (by decide +kernel)
  have served := begun.serve Simulation.backends (draw 2) (Http.listRequest .bridge {}) {}
    (by unfold Gateway.FreshToken; decide +kernel)
  have walk : Walk .vrf start [first, second] _ := served.page (by decide +kernel)
    (by decide +kernel) (by decide) Simulation.backends (draw 3) {}
    (by unfold Gateway.FreshToken; decide +kernel) (by decide +kernel)
  have counted : (start.entries .vrf).length ≤ maxOffset := by decide +kernel
  exact ⟨⟨_, walk⟩, counted, ((walk.pages_complete counted).2.2.2.2.1 second rfl).mp rfl⟩

end Walk

end EvpnGateway
