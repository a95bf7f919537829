import EvpnGateway.Error
import EvpnGateway.Interaction
import EvpnGateway.Text.Blank
import EvpnGateway.Text.Utf8
/-!
# Running commands

* `ProcessReport`: how the process of a command came out; `Shell`: interactions that run commands;
* `CommandResult`: exit code and trimmed output; `execute`, `executeChecked`: run a command, where
  the second takes another exit code than zero for an error.
-/

namespace EvpnGateway

/-- How the process of a command came out, with the bytes that it wrote. -/
inductive ProcessReport where
  /-- The process could not be started. -/
  | notStarted (reason : String)
  | exited (code : Int) (stdout stderr : List UInt8)
  | killed (signal : Nat) (stdout stderr : List UInt8)
  deriving DecidableEq, Repr

/-- Interactions that run command lines. -/
abbrev Shell := Interaction String fun _ => ProcessReport

/-- Exit code and output of a command. -/
structure CommandResult where
  /-- The exit code; -1 if a signal ended the process. -/
  exitCode : Int
  stdout : String
  stderr : String
  deriving DecidableEq, Repr

namespace CommandResult

/-- The command did what it should. -/
def success (result : CommandResult) : Bool := result.exitCode == 0

/-- What the command wrote, standard output first, and a line feed between the two if both wrote. -/
def combinedOutput (result : CommandResult) : String :=
  "\n".intercalate ([result.stdout, result.stderr].filter fun text => !text.isEmpty)

/-- The standard output of a successful command. -/
def toStdout (command : String) (result : CommandResult) : Except GatewayError String :=
  if result.success then .ok result.stdout
  else .error (.commandFailed command result.exitCode result.combinedOutput)

end CommandResult

/-- The text of an output without blanks at its ends; bytes that are no text show as U+FFFD. -/
def outputText (bytes : List UInt8) : String := trim (Utf8.decodeLossy bytes)

/-- The result of a process, or the error that there was none. -/
def ProcessReport.result (command : String) : ProcessReport → Except GatewayError CommandResult
  | notStarted reason => .error (.commandNotStarted command reason)
  | exited code stdout stderr => .ok ⟨code, outputText stdout, outputText stderr⟩
  | killed _ stdout stderr => .ok ⟨-1, outputText stdout, outputText stderr⟩

/-- Runs a command. A command line with a null character cannot be handed to a process. -/
def execute (command : String) : Shell (Except GatewayError CommandResult) :=
  if command.toList.any fun c => c.toNat = 0 then
    .done (.error (.commandNotStarted command "nul byte found in provided data"))
  else .ask command fun report => .done (report.result command)

/-- Runs a command that should exit with zero, and yields its standard output. -/
def executeChecked (command : String) : Shell (Except GatewayError String) := do
  return (← execute command).bind (CommandResult.toStdout command)

end EvpnGateway
