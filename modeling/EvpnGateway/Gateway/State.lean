import EvpnGateway.Backend.Call
import EvpnGateway.Paging
import EvpnGateway.Store
/-!
# The state of a gateway

* `Settings`: values for the whole site; `Gateway`: stores, page tokens and settings;
* `Draw`: the random values that an operation may use;
* `Operation.perform`: calls made one after the other, up to the first that fails;
* `Action`: operations that also read and write the state of a gateway.

An error undoes nothing, neither calls nor what was written. So the operations turn to the backends
first and write last.
-/

namespace EvpnGateway

/-- Values for the whole site. -/
structure Settings where
  localAs : UInt32 := defaultLocalAs
  /-- The bridge that carries all logical bridges. -/
  tenantBridge : String := defaultTenantBridge
  /-- The local end of tunnels for which nothing else is chosen. -/
  vtepIp : Option IpAddress := none
  deriving DecidableEq, Repr

/-- A gateway: what it stores and how it is set up. -/
structure Gateway where
  settings : Settings := {}
  vrfs : Store Vrf := {}
  bridges : Store LogicalBridge := {}
  ports : Store BridgePort := {}
  tokens : PageTokens := {}

/-- The random values that one operation may use. -/
structure Draw where
  /-- Becomes the id of a new resource whose owner chose none. -/
  id : Uuid
  /-- Becomes the router address of a new VRF. -/
  octets : MacAddress
  /-- Becomes the token of the next page. -/
  token : Uuid
  deriving DecidableEq, Repr

namespace Operation

/-- Makes calls one after the other, up to the first that fails. -/
def perform : List Call → Operation Unit
  | [] => pure ()
  | call :: calls => do
    effect call
    perform calls

@[simp] theorem plan_perform_cons (call : Call) (calls : List Call) :
    (perform (call :: calls)).plan = .ask call fun
      | .ok _ => (perform calls).plan
      | .error error => .done (.error error) := by
  refine congrArg (Interaction.ask call) (funext fun reply => ?_)
  cases reply <;> rfl

/-- The stored entry of a name; without one the name is not found. -/
def stored {α : Type} [Named α] (store : Store α) (name : String) : Operation α :=
  match store.get? name with
  | some entry => pure entry
  | none => throw (.notFound name)

end Operation

/-- Operations that read and write the state of a gateway. An error ends an action with whatever it
has written by then. -/
abbrev Action := ExceptT GatewayError (StateT Gateway Plan)

namespace Action

variable {α β : Type}

/-- An operation that does not look at the state. -/
def ofOperation (operation : Operation α) : Action α := ExceptT.mk (StateT.lift operation.plan)

instance : MonadLift Operation Action := ⟨ofOperation⟩

/-- The plan of an action: the outcome and the state after it. -/
def plan (action : Action α) (gateway : Gateway) : Plan (Except GatewayError α × Gateway) :=
  StateT.run (ExceptT.run action) gateway

@[simp] theorem plan_pure (value : α) (gateway : Gateway) :
    (pure value : Action α).plan gateway = .done (.ok value, gateway) := rfl

@[simp] theorem plan_set (after gateway : Gateway) :
    (set after : Action PUnit).plan gateway = .done (.ok ⟨⟩, after) := rfl

/-- Goes on with the value of an outcome; an error is the end. -/
def proceed (next : α → Gateway → Plan (Except GatewayError β × Gateway)) :
    Except GatewayError α × Gateway → Plan (Except GatewayError β × Gateway)
  | (.ok value, gateway) => next value gateway
  | (.error error, gateway) => .done (.error error, gateway)

theorem plan_bind (action : Action α) (next : α → Action β) (gateway : Gateway) :
    (action >>= next).plan gateway =
      (action.plan gateway >>= proceed fun value => (next value).plan) := by
  refine congrArg (StateT.run (ExceptT.run action) gateway >>= ·) (funext fun outcome => ?_)
  obtain ⟨_ | _, _⟩ := outcome <;> rfl

theorem plan_map (f : α → β) (action : Action α) (gateway : Gateway) :
    (f <$> action).plan gateway =
      (action.plan gateway >>= proceed fun value after => .done (.ok (f value), after)) := by
  refine congrArg (StateT.run (ExceptT.run action) gateway >>= ·) (funext fun outcome => ?_)
  obtain ⟨_ | _, _⟩ := outcome <;> rfl

@[simp] theorem plan_get_bind (next : Gateway → Action β) (gateway : Gateway) :
    (get >>= next).plan gateway = (next gateway).plan gateway := rfl

@[simp] theorem plan_set_bind (after gateway : Gateway) (next : PUnit → Action β) :
    (set after >>= next).plan gateway = (next ⟨⟩).plan after := rfl

@[simp] theorem plan_ofExcept_bind (result : Except GatewayError α) (next : α → Action β)
    (gateway : Gateway) :
    (liftM (Operation.ofExcept result) >>= next).plan gateway = match result with
      | .ok value => (next value).plan gateway
      | .error error => .done (.error error, gateway) := by
  cases result <;> rfl

@[simp] theorem plan_stored_bind {γ : Type} [Named γ] (store : Store γ) (name : String)
    (next : γ → Action β) (gateway : Gateway) :
    (liftM (Operation.stored store name) >>= next).plan gateway = match store.get? name with
      | some entry => (next entry).plan gateway
      | none => .done (.error (.notFound name), gateway) := by
  unfold Operation.stored
  cases store.get? name <;> rfl

theorem plan_lift_bind (operation : Operation α) (next : α → Action β) (gateway : Gateway) :
    (liftM operation >>= next).plan gateway = (operation.plan >>= fun result =>
      proceed (fun value => (next value).plan) (result, gateway)) := by
  rw [plan_bind]
  exact Interaction.bind_assoc operation.plan _ _

end Action

end EvpnGateway
