import LintClient.Command.Words
import LintClient.Config.Basic
import LintClient.Host.Basic
import LintClient.Text.Utf8

/-!
# Sources of settings

Settings come from a file, which holds one JSON object, and from environment variables. Durations
are read as numbers when a source is read; all other settings are taken over as they are.
-/

namespace LintClient.Config

open Json (Misuse)

/-- Why a source cannot be read. -/
inductive SourceFault where
  | file (error : Host.FileError)
  /-- The path of the file holds a character that no path may hold. -/
  | path
  | encoding (refusal : Text.Utf8.Refusal)
  | json (failure : Json.Document.Failure) (text : List Char)
  | words (fault : Command.WordFault)
  /-- A text that spells no number stands for a duration. -/
  | duration (text : Json)
  | misuse (cause : Misuse)
deriving Repr

/-- The wording of a fault, where it has one. -/
def SourceFault.message? : SourceFault -> Option String
  | .file error => some error.message
  | .path => some "embedded null byte"
  | .encoding refusal => some refusal.message
  | .json failure text => some (failure.message text)
  | .words fault => some fault.message
  | .duration text => some ("could not convert string to float: " ++ text.literal)
  | .misuse cause => cause.message?

/-- The duration that a text spells. -/
def durationOfText (text : String) : Except SourceFault Json :=
  match Binary64.ofText? text with
  | some number => .ok (.float number)
  | none => .error (.duration (.str text))

/-- The duration that a value stands for. -/
def durationOf (value : Json) : Except SourceFault Json :=
  match value with
  | .str text => durationOfText text
  | .stray text => .error (.duration (.stray text))
  | value => (value.toBinary64.map Json.float).mapError .misuse

/-- The settings that a value of a file gives. -/
def ofJson (value : Json) : Except SourceFault Config :=
  match value.members? with
  | some members => do
    let value (name : String) (usual : Json) : Json := (Json.member? name members).getD usual
    let debounce ← durationOf (value "debounce_seconds" usual.debounce)
    let timeout ← durationOf (value "timeout_seconds" usual.timeout)
    pure {
      javaPath := value "java_path" usual.javaPath
      jarPath := value "jar_path" usual.jarPath
      linterArgs := value "linter_args" usual.linterArgs
      command := value "command" usual.command
      debounce, timeout
      logLevel := value "log_level" usual.logLevel }
  | none => .error (.misuse .lacking)

/-- The settings that the bytes of a file give. -/
def ofBytes (bytes : List UInt8) : Except SourceFault Config :=
  match Text.Utf8.decodeStrict bytes with
  | .error refusal => .error (.encoding refusal)
  | .ok characters =>
    let text := Text.universalNewlines characters
    match Json.Document.document text with
    | .error failure => .error (.json failure text)
    | .ok value => ofJson value

/-- The settings of a file. -/
def ofFile (host : Host) (path : String) : Except SourceFault Config :=
  if Host.holdsNul path then .error .path
  else match host.read path with
    | .error error => .error (.file error)
    | .ok bytes => ofBytes bytes

/-- The settings of the environment. -/
def ofEnvironment (host : Host) : Except SourceFault Config := do
  let value (name usual : String) : String := (host.setting name).getD usual
  let args := match host.setting "SQFLINT_ARGS" with
    | none | some "" => usual.linterArgs
    | some text => .list ((Text.words text.toList).map fun word => .str (String.ofList word))
  let command ← (Command.splitWords (value "SQFLINT_COMMAND" "")).mapError .words
  let debounce ← durationOfText (value "SQFLINT_DEBOUNCE" "0.2")
  let timeout ← durationOfText (value "SQFLINT_TIMEOUT" "30")
  pure {
    javaPath := match host.setting "SQFLINT_JAVA" with
      | some path => .str path
      | none => .null
    jarPath := .str (value "SQFLINT_JAR" installedJar)
    linterArgs := args
    command := .list (command.map .str)
    debounce, timeout
    logLevel := .str (Text.upper (value "SQFLINT_LOG_LEVEL" "WARNING")) }

end LintClient.Config
