import LintClient.Json.Access
import LintClient.Json.Document
import LintClient.Number.Reading

/-!
# Configuration

The settings of a client. Each comes from one of several sources, and a source may hold values of
any kind; a setting is stored as it was given, and a value that is of no use shows where it is
used. Sources are layered: a later one overrides an earlier one in the settings that it changes.
-/

namespace LintClient

/-- The settings of a client. -/
structure Config where
  /-- The path of Java; null looks it up. -/
  javaPath : Json
  jarPath : Json
  linterArgs : Json
  /-- A full linter command; an empty one launches the jar with Java. -/
  command : Json
  debounce : Json
  /-- The time limit of a run; zero sets none. -/
  timeout : Json
  logLevel : Json
deriving Repr

namespace Config

/-- Where the linter's jar is installed. -/
def installedJar : String := "/usr/share/lintclient/bin/SQFLint.jar"

/-- The arguments for one JSON record per line, with variables. -/
def usualArgs : Json := .list [.str "-j", .str "-v"]

/-- A fifth of a second. -/
def usualDebounce : Json := .float (.ofDecimal false 2 (-1))

/-- Half a minute. -/
def usualTimeout : Json := .float (.ofInt 30)

/-- The settings where nothing is said. -/
def usual : Config where
  javaPath := .null
  jarPath := .str installedJar
  linterArgs := usualArgs
  command := .list []
  debounce := usualDebounce
  timeout := usualTimeout
  logLevel := .str "WARNING"

/-- The settings as an object. -/
def toJson (config : Config) : Json :=
  .object [
    ("java_path", config.javaPath),
    ("jar_path", config.jarPath),
    ("linter_args", config.linterArgs),
    ("command", config.command),
    ("debounce_seconds", config.debounce),
    ("timeout_seconds", config.timeout),
    ("log_level", config.logLevel)]

/-- A setting overridden by another: null and the usual value leave it as it is. -/
def override (usual earlier later : Json) : Json :=
  if later.isNull || later.equal usual then earlier else later

/-- The settings of an earlier source overridden by a later one. -/
def merge (earlier later : Config) : Config where
  javaPath := override usual.javaPath earlier.javaPath later.javaPath
  jarPath := override usual.jarPath earlier.jarPath later.jarPath
  linterArgs := override usual.linterArgs earlier.linterArgs later.linterArgs
  command := override usual.command earlier.command later.command
  debounce := override usual.debounce earlier.debounce later.debounce
  timeout := override usual.timeout earlier.timeout later.timeout
  logLevel := override usual.logLevel earlier.logLevel later.logLevel

/-- Settings with the given ones in place of the usual ones; `none` if one of the names is not the
name of a setting. -/
def ofNamed? (named : List (String × Json)) : Option Config :=
  let value (name : String) (usual : Json) : Json := (named.lookup name).getD usual
  match usual.toJson with
  | .object members =>
    if named.all fun pair => members.any fun member => member.1 == pair.1 then
      some {
        javaPath := value "java_path" usual.javaPath
        jarPath := value "jar_path" usual.jarPath
        linterArgs := value "linter_args" usual.linterArgs
        command := value "command" usual.command
        debounce := value "debounce_seconds" usual.debounce
        timeout := value "timeout_seconds" usual.timeout
        logLevel := value "log_level" usual.logLevel }
    else none
  | _ => none

end Config

end LintClient
