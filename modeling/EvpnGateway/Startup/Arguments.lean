import EvpnGateway.Net.SocketAddress
import EvpnGateway.Text.Digits
import EvpnGateway.Text.Split
/-!
# Command line arguments

* `Overrides`: what the arguments say, in place of the configuration file;
* `Flag`: the options by name and by letter; `parseArguments`: reads all arguments from the left.
-/

namespace EvpnGateway

/-- Where the configuration is, unless the arguments say otherwise. -/
def defaultConfigPath : String := "/etc/evpngwd/evpngwd.toml"

/-- What the arguments say. -/
structure Overrides where
  configPath : Option String := none
  listen : Option SocketAddress := none
  localAs : Option UInt32 := none
  tenantBridge : Option String := none
  vtepIp : Option IpAddress := none
  logLevel : Option String := none
  logJson : Bool := false
  deriving DecidableEq, Repr

/-- What a command line asks for. -/
inductive Invocation where
  | run (overrides : Overrides)
  | help
  | version
  deriving DecidableEq, Repr

/-- The options. -/
inductive Flag where
  | config
  | listen
  | localAs
  | tenantBridge
  | vtepIp
  | logLevel
  | logJson
  | help
  | version
  deriving DecidableEq, Repr

namespace Flag

/-- All options with their names. -/
def names : List (List Char × Flag) :=
  [("config", config), ("listen", listen), ("local-as", localAs), ("tenant-bridge", tenantBridge),
    ("vtep-ip", vtepIp), ("log-level", logLevel), ("log-json", logJson), ("help", help),
    ("version", version)].map fun (name, flag) => (name.toList, flag)

/-- The options that have a letter. -/
def letters : List (Char × Flag) :=
  [('c', config), ('l', listen), ('h', help), ('V', version)]

/-- The option is followed by a value. -/
def takesValue : Flag → Bool
  | logJson | help | version => false
  | _ => true

end Flag

namespace Overrides

/-- Keeps the value of an option that must come only once. -/
def once {α : Type} (present : Option α) (value : Option α) (put : α → Overrides) :
    Option Overrides :=
  match present, value with
  | none, some value => some (put value)
  | _, _ => none

/-- Takes the value of an option in; none if the option came before or the value is no good. -/
def set (overrides : Overrides) (flag : Flag) (value : List Char) : Option Overrides :=
  match flag with
  | .config =>
    once overrides.configPath (if value.isEmpty then none else some (String.ofList value))
      fun path => { overrides with configPath := some path }
  | .listen =>
    once overrides.listen (SocketAddress.read? value) fun listen =>
      { overrides with listen := some listen }
  | .localAs =>
    once overrides.localAs ((Digits.readInt? 0 0xffffffff value).map fun n =>
      UInt32.ofNat n.toNat) fun localAs => { overrides with localAs := some localAs }
  | .tenantBridge =>
    once overrides.tenantBridge (some (String.ofList value)) fun name =>
      { overrides with tenantBridge := some name }
  | .vtepIp =>
    once overrides.vtepIp (IpAddress.read? value) fun address =>
      { overrides with vtepIp := some address }
  | .logLevel =>
    once overrides.logLevel (some (String.ofList value)) fun level =>
      { overrides with logLevel := some level }
  | .logJson | .help | .version => none

end Overrides

/-- An argument that can be the value of an option in front of it: no option itself. -/
def isValue (argument : List Char) : Bool :=
  argument.head? ≠ some '-' || argument = ['-']

/-- What an argument is. -/
inductive Argument where
  /-- Only values that belong to no option may follow. -/
  | escape
  /-- An option with the value that is attached to it, and the letters that follow its own. -/
  | option (flag : Flag) (value : Option (List Char)) (letters : List Char)
  deriving DecidableEq, Repr

/-- The option of a letter, and what is attached to it: its value behind an optional equals sign, or
further letters. -/
def readLetters : List Char → Option Argument
  | [] => none
  | letter :: rest =>
    match Flag.letters.lookup letter with
    | none => none
    | some flag =>
      if ¬ flag.takesValue then some (.option flag none rest)
      else match rest with
        | [] => some (.option flag none [])
        | '=' :: value => some (.option flag (some value) [])
        | value => some (.option flag (some value) [])

/-- Reads one argument; none if it is neither an option nor the escape. -/
def readArgument : List Char → Option Argument
  | ['-', '-'] => some .escape
  | '-' :: '-' :: body =>
    let (name, value) := match splitFirst? '=' body with
      | some (name, value) => (name, some value)
      | none => (body, none)
    (Flag.names.lookup name).map fun flag => .option flag value []
  | '-' :: letters => readLetters letters
  | _ => none

/-- Reads arguments from the left. Options for help and version act when they are met; anything that
is at fault before them comes first. -/
def readArguments (overrides : Overrides) : List (List Char) → Option Invocation
  | [] => some (.run overrides)
  | argument :: rest =>
    match readArgument argument with
    | none => none
    | some .escape => if rest.isEmpty then some (.run overrides) else none
    | some (.option .help none _) => some .help
    | some (.option .version none _) => some .version
    | some (.option .logJson none letters) =>
      if overrides.logJson ∨ letters ≠ [] then none
      else readArguments { overrides with logJson := true } rest
    | some (.option flag (some value) _) =>
      (overrides.set flag value).bind fun overrides => readArguments overrides rest
    | some (.option flag none _) =>
      match rest with
      | [] => none
      | value :: rest =>
        if isValue value then
          (overrides.set flag value).bind fun overrides => readArguments overrides rest
        else none

/-- What a command line asks for; none if it is at fault. -/
def parseArguments (arguments : List String) : Option Invocation :=
  readArguments {} (arguments.map String.toList)

end EvpnGateway
