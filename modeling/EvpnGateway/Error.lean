/-!
# Errors of the gateway

* `Code`: the three classes of errors that clients tell apart, with name and HTTP status;
* `GatewayError`: everything that can go wrong, with `message`, `code` and `isClientError`;
* `ok_of_bind`, `error_of_bind`, `ok_of_map`, `ok_of_mapError`: what a computation went through that
  ended without an error, or with one.
-/

namespace EvpnGateway

/-- What a client can do about an error: mend the request, create what is missing, or wait. -/
inductive Code where
  | invalidArgument
  | notFound
  | internal
  deriving DecidableEq, Repr

namespace Code

/-- The name under which a code appears in answers. -/
def name : Code → String
  | invalidArgument => "INVALID_ARGUMENT"
  | notFound => "NOT_FOUND"
  | internal => "INTERNAL"

/-- The HTTP status of answers with the code. -/
def httpStatus : Code → Nat
  | invalidArgument => 400
  | notFound => 404
  | internal => 500

end Code

/-- A failed operation and its cause. -/
inductive GatewayError where
  /-- The request itself is at fault. -/
  | invalidArgument (reason : String)
  /-- No resource or live link has this name. -/
  | notFound (key : String)
  /-- A command could not be started. -/
  | commandNotStarted (command reason : String)
  /-- A command ended with another exit code than zero. -/
  | commandFailed (command : String) (exitCode : Int) (output : String)
  /-- An operation on a kernel link failed. -/
  | link (operation reason : String)
  /-- The report on a live link is not what the tool promises. -/
  | linkReport (name reason : String)
  /-- An operation of the routing daemon failed. -/
  | routing (operation reason : String)
  /-- A configuration value, or the file as a whole, is no good. -/
  | config (field reason : String)
  /-- The configuration file does not follow its format. -/
  | configFormat (reason : String)
  deriving DecidableEq, Repr

namespace GatewayError

/-- The wording of an error. -/
def message : GatewayError → String
  | invalidArgument reason => "Invalid argument: " ++ reason
  | notFound key => "unable to find key " ++ key
  | commandNotStarted command reason =>
    "Failed to execute shell command '" ++ command ++ "': " ++ reason
  | commandFailed command exitCode output =>
    "Shell command failed: '" ++ command ++ "' (exit code " ++ toString exitCode ++ "): " ++ output
  | link operation reason => "Netlink operation failed: " ++ operation ++ ": " ++ reason
  | linkReport name reason => "Netlink operation failed: link show: " ++ name ++ ": " ++ reason
  | routing operation reason => "FRR operation failed: " ++ operation ++ ": " ++ reason
  | config field reason => "Invalid configuration for " ++ field ++ ": " ++ reason
  | configFormat reason => "Invalid configuration for config file: " ++ reason

/-- The class of an error. -/
def code : GatewayError → Code
  | invalidArgument _ | config .. | configFormat _ => .invalidArgument
  | notFound _ => .notFound
  | commandNotStarted .. | commandFailed .. | link .. | linkReport .. | routing .. => .internal

/-- The caller is at fault: a bad request or a missing resource. -/
def isClientError (error : GatewayError) : Bool :=
  match error.code with
  | .invalidArgument | .notFound => true
  | .internal => false

end GatewayError

section Results

variable {ε α β : Type} {result : Except ε α} {value : β}

theorem ok_of_bind {next : α → Except ε β} (h : result.bind next = .ok value) :
    ∃ first, result = .ok first ∧ next first = .ok value := by
  cases result with
  | error error => exact nomatch h
  | ok first => exact ⟨first, rfl, h⟩

theorem error_of_bind {error : ε} {next : α → Except ε β} (h : result.bind next = .error error) :
    result = .error error ∨ ∃ first, result = .ok first ∧ next first = .error error := by
  cases result with
  | error other => exact .inl (congrArg Except.error (Except.error.inj h))
  | ok first => exact .inr ⟨first, rfl, h⟩

theorem ok_of_map {f : α → β} (h : result.map f = .ok value) :
    ∃ first, result = .ok first ∧ f first = value := by
  cases result with
  | error error => exact nomatch h
  | ok first => exact ⟨first, rfl, Except.ok.inj h⟩

theorem ok_of_mapError {ε' : Type} {f : ε → ε'} {result : Except ε β}
    (h : result.mapError f = .ok value) : result = .ok value := by
  cases result with
  | error error => exact nomatch h
  | ok found => exact congrArg Except.ok (Except.ok.inj h)

end Results

end EvpnGateway
