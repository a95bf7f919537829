import EvpnGateway.Gateway.State
/-!
# The life of resources

All kinds of resources are created, deleted, updated and shown in one way: the request is checked,
then the store is consulted, then calls are made, and only then the store is written.

* `Lifecycle`: what the kinds differ in;
* `Lifecycle.create`, `delete`, `update`, `look`, `page`: what they have in common.
-/

namespace EvpnGateway

/-- What the kinds of resources differ in. -/
structure Lifecycle (α : Type) [Named α] where
  kind : Kind
  /-- Where the resources are stored. -/
  store : Gateway → Store α
  /-- The gateway with another store. -/
  replace : Gateway → Store α → Gateway
  /-- The calls that set up a new resource, if what is stored allows for it. -/
  realization : Gateway → α → Except GatewayError (List Call)
  /-- The calls that take a resource down. -/
  teardown : Settings → α → List Call
  /-- The calls that look for the links of a resource. -/
  probe : α → List Call
  /-- A resource with the status that it has under the settings. -/
  report : Settings → α → α

/-- What the kinds whose resources can be updated differ in. -/
structure Revision (α : Type) where
  /-- The link that is brought into force again. -/
  device? : α → Option String
  /-- A stored resource cannot become this one. -/
  unchanged : (stored requested : α) → Check
  /-- The stored resource with the specification of the other. -/
  revised : (stored requested : α) → α

namespace Lifecycle

variable {α : Type} [Named α] (lifecycle : Lifecycle α)

/-- Creates a resource, or yields the one that has its name already. -/
def create (check : Check) (new : Gateway → α) : Action α := do
  Operation.ofExcept check
  let gateway ← get
  match (lifecycle.store gateway).get? (Named.name (new gateway)) with
  | some existing => return existing
  | none =>
    let calls ← Operation.ofExcept (lifecycle.realization gateway (new gateway))
    Operation.perform calls
    set (lifecycle.replace gateway ((lifecycle.store gateway).insert (new gateway)))
    return new gateway

/-- Deletes a resource with everything that was set up for it. -/
def delete (request : DeleteRequest) : Action Unit := do
  Operation.ofExcept (checkName lifecycle.kind.collection request.name)
  let gateway ← get
  match (lifecycle.store gateway).get? request.name with
  | some entry =>
    Operation.perform (lifecycle.teardown gateway.settings entry)
    set (lifecycle.replace gateway ((lifecycle.store gateway).erase (Named.name entry)))
  | none => if request.allowMissing then return else throw (.notFound request.name)

/-- Brings the link of a resource into force again, where there is one; the specification has to be
the stored one. -/
def update (revision : Revision α) (requested : α) : Action α := do
  Operation.ofExcept (checkName lifecycle.kind.collection (Named.name requested))
  let gateway ← get
  let existing ← Operation.stored (lifecycle.store gateway) (Named.name requested)
  Operation.ofExcept (revision.unchanged existing requested)
  match revision.device? existing with
  | some device => do
    let link ← Operation.call (.linkByName device)
    Operation.effect (.linkModify link)
  | none => pure ()
  let revised := lifecycle.report gateway.settings (revision.revised existing requested)
  set (lifecycle.replace gateway ((lifecycle.store gateway).insert revised))
  return revised

/-- The resource of a name, whose links have to be there. -/
def look (name : String) : Action α := do
  Operation.ofExcept (checkName lifecycle.kind.collection name)
  let gateway ← get
  let entry ← Operation.stored (lifecycle.store gateway) name
  Operation.perform (lifecycle.probe entry)
  return lifecycle.report gateway.settings entry

/-- A page of the resources in the order of their names. -/
def page (draw : Draw) (request : ListRequest) : Action (Listing α) := do
  let gateway ← get
  let (listing, tokens) ← Operation.ofExcept
    (gateway.tokens.paginate draw.token (lifecycle.store gateway).toList request)
  set { gateway with tokens }
  return listing

end Lifecycle

end EvpnGateway
