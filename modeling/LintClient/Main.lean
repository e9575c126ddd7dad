import LintClient.CommandLine.Program

/-!
# The command line

The outermost layer of the program: it collects what the call may look at, calls the program, and
carries out what the call asks for. The programs that can be run are those that the host knows.
-/

open LintClient

/-- The environment variables that the program looks at. -/
def lookedAtVariables : List String :=
  ["PATH", "JAVA_HOME", "SQFLINT_JAVA", "SQFLINT_JAR", "SQFLINT_ARGS", "SQFLINT_COMMAND",
    "SQFLINT_DEBOUNCE", "SQFLINT_TIMEOUT", "SQFLINT_LOG_LEVEL"]

/-- The environment, as far as the program looks at it. -/
def readEnvironment : IO (List (String × String)) :=
  lookedAtVariables.filterMapM fun name => do
    let value ← IO.getEnv name
    pure (value.map fun value => (name, value))

/-- What stands at a path, if anything does. -/
def readNode (path : String) : IO (Option Host.Node) := do
  try
    let bytes ← IO.FS.readBinFile path
    pure (some (.file bytes.toList (.usual false)))
  catch
    | .inappropriateType .. => pure (some (.folder (.usual true)))
    | .permissionDenied .. => pure (some (.file [] ⟨false, false, false⟩))
    | _ => pure none

/-- Put what stands at some paths into a host. -/
def readPaths (host : Host) (paths : List String) : IO Host :=
  paths.foldlM
    (fun host path => do
      match ← readNode path with
      | some node => pure (host.place path node)
      | none => pure host)
    host

/-- The paths in settings. -/
def settingPaths (config : Config) : List String :=
  [config.javaPath, config.jarPath].filterMap fun
    | .str path => some path
    | _ => none

/-- The log files in the directory that arguments name. -/
def logPaths (arguments : CommandLine.Arguments) : List String :=
  match CommandLine.said arguments.logDir with
  | some directory =>
    directory :: ["sqflint.log", "error.log"].map fun name => Host.childPath directory [name]
  | none => []

/-- The host of a call: the files that its arguments and its settings name. -/
def readHost (given : List String) : IO Host := do
  let host := Host.fresh (← readEnvironment)
  match CommandLine.parse given with
  | .error _ => pure host
  | .ok arguments =>
    let named := arguments.files.filter (· ≠ "-") ++ arguments.config.toList
    let host ← readPaths host (named ++ logPaths arguments)
    match CommandLine.config host arguments with
    | .ok config => readPaths host (settingPaths config)
    | .error _ => pure host

/-- The moment at which the program runs: that of a file which it has just made. -/
def readClock : IO Log.Stamp := do
  let (_, path) ← IO.FS.createTempFile
  let time := (← path.metadata).modified
  IO.FS.removeFile path
  pure (.ofSeconds time.sec.toNat (time.nsec.toNat / 1000))

/-- All bytes of a stream. -/
partial def readAll (stream : IO.FS.Stream) (earlier : ByteArray) : IO ByteArray := do
  let bytes ← stream.read 65536
  if bytes.isEmpty then pure earlier else readAll stream (earlier ++ bytes)

/-- Standard input, if the call asks for it. -/
def readInput (given : List String) : IO (List UInt8) := do
  if given.contains "-" then
    let bytes ← readAll (← IO.getStdin) .empty
    pure bytes.toList
  else pure []

/-- The path of a place, as seen from the current directory. -/
def pathOf (here location : Host.Location) : String :=
  if here.isPrefixOf location then "/".intercalate (location.drop here.length)
  else "/" ++ "/".intercalate location

/-- Carry out what became of a place: a directory is made, and what stands at the end of a file
behind its old content is appended. -/
def writeNode (before : Host.FileTree) (path : String) (location : Host.Location) :
    Host.Node -> IO Unit
  | .folder _ => if before.node? location |>.isNone then IO.FS.createDirAll path else pure ()
  | .file data _ => do
    let old := match before.node? location with
      | some (.file old _) => old.length
      | _ => 0
    let isNew := (before.node? location).isNone
    if isNew || old < data.length then
      let handle ← IO.FS.Handle.mk path IO.FS.Mode.append
      handle.write ⟨(data.drop old).toArray⟩
  | _ => pure ()

/-- Carry out what a call leaves behind. -/
def finish (before : Host) (desk : CommandLine.Desk) : IO Unit := do
  IO.print desk.output
  IO.eprint desk.session.console
  let after := desk.session.host
  for (location, node) in after.tree do
    writeNode before.tree (pathOf after.here location) location node

/-- Call the program with the arguments of the process. -/
def main (given : List String) : IO UInt32 := do
  let host ← readHost given
  let input ← readInput given
  let (desk, exit) := CommandLine.call "1" (.start host (← readClock) input) given
  finish host desk
  if let .escape _ := exit then
    IO.eprintln "The program has ended unexpectedly."
  -- What would never end is ended here as a failure.
  pure (exit.code?.getD CommandLine.failureStatus).toUInt32
