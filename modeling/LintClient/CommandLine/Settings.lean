import LintClient.CommandLine.Arguments
import LintClient.Config.Sources

/-!
# The settings of a command line

A command line is the last source of settings: what it says wins over the configuration file that it
names, and that file over the environment. An empty path, command or level says nothing, and so
leaves a setting as it is; a time limit of zero is one that is said. So is a time limit that got
lost, but it is no number.
-/

namespace LintClient.CommandLine

open Config (SourceFault)

/-- A text that says something. -/
def said : Option String -> Option String
  | some "" | none => none
  | some text => some text

/-- The settings of the environment overridden by those of the file that the arguments name. -/
def sourcedConfig (host : Host) (arguments : Arguments) : Except SourceFault Config := do
  let environment ← Config.ofEnvironment host
  match said arguments.config with
  | none => pure environment
  | some path => pure (environment.merge (← Config.ofFile host path))

/-- The words of the command that the arguments give, if they give one. -/
def givenCommand (arguments : Arguments) : Except SourceFault (Option (List String)) :=
  match said arguments.command with
  | none => .ok none
  | some text => ((Command.splitWords text).map some).mapError .words

/-- The time limit that the arguments say, if they say one. -/
def saidTimeout (arguments : Arguments) : Option Json :=
  if arguments.lost.contains .timeout then some (.list []) else arguments.timeout.map Json.float

/-- The settings that the arguments ask for. -/
def config (host : Host) (arguments : Arguments) : Except SourceFault Config := do
  let sourced ← sourcedConfig host arguments
  let command ← givenCommand arguments
  pure { sourced with
    javaPath := ((said arguments.java).map Json.str).getD sourced.javaPath
    jarPath := ((said arguments.jar).map Json.str).getD sourced.jarPath
    command := (command.map fun words => Json.list (words.map .str)).getD sourced.command
    timeout := (saidTimeout arguments).getD sourced.timeout
    logLevel := ((said arguments.logLevel).map fun level => Json.str (Text.upper level)).getD
      sourced.logLevel }

end LintClient.CommandLine
