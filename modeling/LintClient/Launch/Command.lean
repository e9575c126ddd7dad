import LintClient.Config.Basic
import LintClient.Config.Validation
import LintClient.LintError

/-!
# The linter command

A configured command is used as it is. Otherwise the jar is launched with Java, which is looked up
in this order: the configured path, the Java home of the environment, the programs of the host. A
configured path that leads nowhere is not replaced by another one.
-/

namespace LintClient.Launch

open Config (Obstacle)

/-- The files below a Java home that may be Java. -/
def homeCandidates (home : String) : List String :=
  ["java", "java.exe"].map fun name => Host.childPath home ["bin", name]

/-- Java at a configured path. -/
def javaAt (host : Host) : Json -> Except Obstacle (Option String)
  | .str path => do
    let node ← Config.look host path
    pure (if node.isSome || (host.program? path).isSome then some path else none)
  | .stray _ => .ok none
  | _ => .error (.misuse .unsupported)

/-- The first of some paths that leads to a regular file. -/
def firstFile (host : Host) : List String -> Except Obstacle (Option String)
  | [] => .ok none
  | path :: paths => do
    let node ← Config.look host path
    if node.any Host.Node.isRegular then pure (some path) else firstFile host paths

/-- The files below the Java home of the environment that may be Java. -/
def candidates (host : Host) : List String :=
  let home := (host.setting "JAVA_HOME").getD ""
  if home.isEmpty then [] else homeCandidates home

/-- Java as the host has it. -/
def javaOfHost (host : Host) : Except Obstacle (Option String) := do
  let atHome ← firstFile host (candidates host)
  pure (atHome <|> host.program? "java")

/-- What there is to note about the lookup of Java: a Java home without Java. -/
def javaNotes (host : Host) (configured : Json) : List LogRecord :=
  let home := (host.setting "JAVA_HOME").getD ""
  match firstFile host (candidates host) with
  | .ok none =>
    if configured.isPresent || home.isEmpty then []
    else [.about "Java" .debug ("JAVA_HOME set but no java binary found: " ++ home)]
  | _ => []

/-- The path of Java, if it is found. -/
def java (host : Host) (configured : Json) : Except Obstacle (Option String) :=
  if configured.isPresent then javaAt host configured else javaOfHost host

/-- Why there is no linter command. -/
inductive CommandFault where
  | noJava
  | noJar (path : Json)
  | obstacle (cause : Obstacle)
deriving Repr

/-- The failure that a fault amounts to, unless there is something that cannot be looked at. -/
def CommandFault.failure : CommandFault -> Except Obstacle LintError
  | .noJava =>
    .ok (.plain .launch "Failed to launch java process. Do you have java installed?")
  | .noJar path => .ok (.plain .launch ("Linter jar not found: " ++ path.plain))
  | .obstacle cause => .error cause

/-- The items of a setting. -/
def itemsOf (value : Json) : Except CommandFault (List Json) :=
  value.elements.mapError fun cause => .obstacle (.misuse cause)

/-- The command that launches the jar. -/
def jarCommand (host : Host) (config : Config) : Except CommandFault (List Json) := do
  let some java ← (java host config.javaPath).mapError .obstacle | throw .noJava
  let node ← (Config.lookAt host config.jarPath).mapError .obstacle
  if !node.any Host.Node.isRegular then throw (.noJar config.jarPath)
  let args ← itemsOf config.linterArgs
  pure (.str java :: .str "-jar" :: config.jarPath :: args)

/-- The linter command. -/
def command (host : Host) (config : Config) : Except CommandFault (List Json) :=
  if config.command.isPresent then itemsOf config.command else jarCommand host config

end LintClient.Launch
