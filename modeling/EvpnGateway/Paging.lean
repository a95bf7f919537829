import EvpnGateway.Resource.Uuid
import EvpnGateway.Resource.Validation
/-!
# Paging

Listings come in pages. A token stands for the offset at which a page starts and is good for as
long as the gateway runs.

* `cutPage`: a page of a list, and whether anything remains behind it;
* `PageTokens`: the offsets behind the tokens; `extract`, `issue`, `paginate`.
-/

namespace EvpnGateway

/-- The length of a page where the request leaves it open. -/
def defaultPageSize : Nat := 50

/-- The longest page. -/
def maxPageSize : Nat := 250

/-- The largest offset that can be counted. -/
def maxOffset : Nat := 0xffffffffffffffff

/-- The items from `offset` on, at most `size` of them, and whether any remain behind them; the end
of the page is counted up to the largest offset. -/
def cutPage {α : Type} (items : List α) (offset size : Nat) : List α × Bool :=
  ((items.drop offset).take size, min (offset + size) maxOffset < items.length)

/-- The offsets behind the tokens that were issued. -/
structure PageTokens where
  offsets : List (String × Nat) := []
  deriving DecidableEq, Repr

namespace PageTokens

/-- The page size that a request gets. -/
def pageSize (requested : Int) : Except GatewayError Nat :=
  if requested < 0 then refuse .negativePageSize
  else if requested = 0 then .ok defaultPageSize
  else .ok (min requested.toNat maxPageSize)

/-- The size and the offset of the page that a request asks for. -/
def extract (tokens : PageTokens) (request : ListRequest) : Except GatewayError (Nat × Nat) := do
  let size ← pageSize request.pageSize
  if request.pageToken.isEmpty then return (size, 0)
  match tokens.offsets.lookup request.pageToken with
  | some offset => return (size, offset)
  | none => refuse (.unknownToken request.pageToken)

/-- Remembers a token for an offset. -/
def issue (tokens : PageTokens) (token : String) (offset : Nat) : PageTokens :=
  ⟨(token, offset) :: tokens.offsets⟩

/-- The page that a request asks for. `fresh` becomes the token of the next page, if there is
one. -/
def paginate {α : Type} (tokens : PageTokens) (fresh : Uuid) (items : List α)
    (request : ListRequest) : Except GatewayError (Listing α × PageTokens) := do
  let (size, offset) ← tokens.extract request
  match cutPage items offset size with
  | (page, true) =>
    return (⟨page, fresh.text⟩, tokens.issue fresh.text (offset + size))
  | (page, false) => return (⟨page, ""⟩, tokens)

end PageTokens

end EvpnGateway
