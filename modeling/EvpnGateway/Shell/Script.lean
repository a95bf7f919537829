import EvpnGateway.Shell.Process
import EvpnGateway.Text.Split
/-!
# Scripted commands

Surroundings in which no process runs: rules say how each command comes out.

* `ScriptRule`, `Script.handler`: the first rule that fits a command answers it; where none does,
  the command exits with zero and writes nothing;
* `missingTools`: surroundings without any of the tools.
-/

namespace EvpnGateway

/-- A text occurs within another. -/
def occursIn (needle : List Char) : List Char → Bool
  | [] => needle.isEmpty
  | c :: rest => (after? needle (c :: rest)).isSome || occursIn needle rest

/-- How the commands that contain a text come out. -/
structure ScriptRule where
  pattern : String
  /-- The number of commands left for the rule, if it is limited. -/
  times : Option Nat := none
  report : ProcessReport
  deriving DecidableEq, Repr

/-- Rules in the order in which they are tried. -/
abbrev Script := List ScriptRule

namespace Script

/-- The report on a command, and the rules that are left for the next. -/
def answer (command : String) : Script → ProcessReport × Script
  | [] => (.exited 0 [] [], [])
  | rule :: rules =>
    if rule.times ≠ some 0 ∧ occursIn rule.pattern.toList command.toList then
      (rule.report, { rule with times := rule.times.map (· - 1) } :: rules)
    else
      let (report, rules) := answer command rules
      (report, rule :: rules)

/-- The surroundings that a script makes. -/
def handler : Interaction.Handler String (fun _ => ProcessReport) Script := answer

end Script

/-- Surroundings in which the shell finds none of the tools. -/
def missingTools : Interaction.Handler String (fun _ => ProcessReport) Unit := fun _ _ =>
  (.exited 127 [] (Utf8.encode "not found"), ())

end EvpnGateway
