import LintClient.Config.Basic
import LintClient.Host.Basic
import LintClient.LintError
import LintClient.Log.Basic

/-!
# Validation

A configuration is valid when its durations are not negative, its log level exists and, unless it
has a command of its own, its jar is there. Every complaint names the value complained about. A
configuration cannot be checked if a value is of the wrong kind or a path cannot be followed.
-/

namespace LintClient.Config

open Json (Misuse)

/-- A complaint about a setting. -/
inductive Complaint where
  | negativeDebounce (value : Json)
  | negativeTimeout (value : Json)
  | unknownLevel (value : Json)
  | noJarOrCommand
  | noSuchJar (path : Json)
deriving Repr

/-- The wording of a complaint. -/
def Complaint.message : Complaint -> String
  | .negativeDebounce value => "debounce_seconds must be >= 0: " ++ value.plain
  | .negativeTimeout value => "timeout_seconds must be >= 0: " ++ value.plain
  | .unknownLevel value => "Invalid log_level: " ++ value.plain
  | .noJarOrCommand => "Must provide jar_path or command"
  | .noSuchJar path => "Linter jar not found: " ++ path.plain

/-- Why a setting cannot be looked at. -/
inductive Obstacle where
  | misuse (cause : Misuse)
  | file (error : Host.FileError)
deriving DecidableEq, Repr

/-- What a path leads to in its plain form, if it leads anywhere. -/
def look (host : Host) (path : String) : Except Obstacle (Option Host.Node) :=
  (host.look (Host.plainPath path)).mapError .file

/-- What a setting leads to as a path, if it leads anywhere. The names of files are texts that are
made of characters. -/
def lookAt (host : Host) : Json -> Except Obstacle (Option Host.Node)
  | .str path => look host path
  | .stray _ => .ok none
  | _ => .error (.misuse .unsupported)

/-- A complaint if a condition holds. -/
def complainIf (condition : Bool) (complaint : Complaint) : List Complaint :=
  if condition then [complaint] else []

/-- The complaints about the jar, which matters only where it is launched. -/
def jarComplaints (host : Host) (config : Config) : Except Obstacle (List Complaint) :=
  if config.command.isPresent then .ok []
  else if !config.jarPath.isPresent then .ok [.noJarOrCommand]
  else do
    let node ← lookAt host config.jarPath
    pure (complainIf (!node.any Host.Node.isRegular) (.noSuchJar config.jarPath))

/-- The complaints about a configuration. -/
def complaints (host : Host) (config : Config) : Except Obstacle (List Complaint) := do
  let negativeDebounce ← config.debounce.isBelowZero.mapError .misuse
  let negativeTimeout ← config.timeout.isBelowZero.mapError .misuse
  let level ← config.logLevel.uppered.mapError .misuse
  let jar ← jarComplaints host config
  pure (complainIf negativeDebounce (.negativeDebounce config.debounce)
    ++ complainIf negativeTimeout (.negativeTimeout config.timeout)
    ++ complainIf (Level.ofName? level).isNone (.unknownLevel config.logLevel)
    ++ jar)

/-- The failure that complaints amount to. -/
def invalid (complaints : List Complaint) : LintError :=
  .plain (.configuration (complaints.map Complaint.message)) "Invalid configuration"

end LintClient.Config
