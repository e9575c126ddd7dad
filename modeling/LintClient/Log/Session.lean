import LintClient.Host.Basic
import LintClient.Log.Line
import LintClient.Log.Template

/-!
# Sessions

What a running program does to its surroundings as far as logging goes: who listens to its records,
what appears on its error stream, and what stands in its log files. Setting up listeners takes the
place of an earlier setup, and what was done before a setup failed stays done.
-/

namespace LintClient.Log

open Host (FileTree FileError)
open Json (Misuse)

/-- Where a listener writes. -/
inductive Outlet where
  | console
  | file (path : String)
deriving DecidableEq, Repr

/-- Someone who hears the records whose level has at least a given rank. -/
structure Listener where
  outlet : Outlet
  threshold : Nat
deriving DecidableEq, Repr

/-- The surroundings of a running program. -/
structure Session where
  host : Host
  /-- The moment that is written into logs. -/
  now : Stamp
  listeners : List Listener
  /-- What was written on the error stream. -/
  console : String
deriving Repr

namespace Session

/-- A session on a host to which nobody listens yet. -/
def start (host : Host) (now : Stamp) : Session := ⟨host, now, [], ""⟩

/-- Print a text on the error stream. -/
def print (session : Session) (text : String) : Session :=
  { session with console := session.console ++ text }

/-- Let one listener hear records. -/
def tell (records : List LogRecord) (session : Session) (listener : Listener) : Session :=
  let heard := records.filter fun record => listener.threshold ≤ record.level.rank
  match listener.outlet with
  | .console => session.print (String.join (heard.map (consoleLine session.now)))
  | .file path =>
    let text := String.join (heard.map (fileLine session.now))
    match session.host.tree.append session.host.here path text with
    | .ok tree => { session with host := { session.host with tree } }
    | .error _ => session

/-- Let every listener hear records. -/
def emit (session : Session) (records : List LogRecord) : Session :=
  session.listeners.foldl (tell records) session

end Session

/-- Why a name or a number does not stand for a level. -/
inductive LevelFault where
  | unknown (name : String)
  | negative (rank : Int)
  | misuse (cause : Misuse)
deriving DecidableEq, Repr

/-- The wording of a fault, where it has one. -/
def LevelFault.message? : LevelFault -> Option String
  | .unknown name => some ("Level '" ++ name ++ "' does not exist")
  | .negative rank =>
    some ("Invalid level value, it should be a positive integer, not: " ++ toString rank)
  | .misuse cause => cause.message?

/-- The rank that a level has by its name or that is given as a number. -/
def rankOf (level : Json) : Except LevelFault Nat :=
  match level with
  | .str name => match Level.ofName? name with
    | some level => .ok level.rank
    | none => .error (.unknown name)
  | .stray name => .error (.unknown name.source.shown)
  | level => match level.integer? with
    | some rank => if rank < 0 then .error (.negative rank) else .ok rank.toNat
    | none => .error (.misuse .unsupported)

/-- Why a setup fails. -/
inductive SetupFault where
  | level (fault : LevelFault)
  /-- A path holds a character that no path may hold. -/
  | path
  /-- There is no header for the metadata. -/
  | header (fault : HeaderFault)
  | template (fault : Template.Fault)
  | file (error : FileError)
deriving DecidableEq, Repr

/-- The wording of a fault, where it has one. -/
def SetupFault.message? : SetupFault -> Option String
  | .level fault => fault.message?
  | .path => some "embedded null byte"
  | .header fault => fault.message?
  | .template fault => fault.message?
  | .file error => some error.message

/-- A change of a session that may fail midway. -/
abbrev Setup (α : Type) := ExceptT SetupFault (StateM Session) α

/-- The rank of a level. -/
def rankAsked (level : Json) : Setup Nat :=
  match rankOf level with
  | .ok rank => pure rank
  | .error fault => throw (.level fault)

/-- Change the files. -/
def changeFiles (change : FileTree -> Host.Location -> Except FileError FileTree) :
    Setup Unit := do
  let session ← get
  match change session.host.tree session.host.here with
  | .ok tree => set { session with host := { session.host with tree } }
  | .error error => throw (.file error)

/-- Listen on the error stream, and nowhere else. -/
def listenOnConsole (level : Json) : Setup Unit := do
  modify fun session => { session with listeners := [] }
  let threshold ← rankAsked level
  modify fun session => { session with listeners := [⟨.console, threshold⟩] }

/-- The path of the log file that a template names. -/
def filledPath (template : String) : Setup String := do
  let session ← get
  match Template.fill session.now template with
  | .ok path => pure (Host.absolutePath session.host.here path)
  | .error fault => throw (.template fault)

/-- Listen in the log file that a template names as well. The file is there even if it cannot be
listened at the level asked for. -/
def listenInFile (template : String) (level : Json) : Setup Unit := do
  let path ← filledPath template
  changeFiles fun tree here => tree.makeFolders here (Host.parentPath path)
  changeFiles fun tree here => tree.append here path ""
  let threshold ← rankAsked level
  modify fun session =>
    { session with listeners := session.listeners ++ [⟨.file path, threshold⟩] }

/-- What a setup asks for. A level is a name or a number. -/
structure Plan where
  consoleLevel : Json
  fileLevel : Json
  metadata : Metadata
deriving Repr

/-- The level at which the error stream is listened to unless another one is asked for. -/
def usualConsoleLevel : Json := .str Level.info.name

/-- A plan that asks for nothing in particular. -/
def Plan.usual : Plan := ⟨usualConsoleLevel, .str Level.debug.name, []⟩

/-- The metadata of a session: its start and its directory, then what the plan adds or changes. -/
def sessionMetadata (now : Stamp) (directory : String) (metadata : Metadata) : Metadata :=
  Json.membersOf
    ([("Start Time", .str (now.written "YYYY-MM-DD HH:mm:ss")),
      ("Log Directory", .str directory)] ++ metadata)

/-- Write the header of a session into a log file. -/
def writeHeader (path : String) (metadata : Metadata) : Setup Unit := do
  changeFiles fun tree here => tree.append here path ""
  match header metadata with
  | .ok header => changeFiles fun tree here => tree.append here path (header ++ "\n")
  | .error fault => throw (.header fault)

/-- Listen on the error stream and in a directory, whose path is returned in its plain form: all
records at the level of the plan, with a header in front, and the errors apart. The paths of the log
files are templates, but the header is written to the path as it stands. -/
def listenInDirectory (directory : String) (plan : Plan) : Setup String := do
  listenOnConsole plan.consoleLevel
  let directory := Host.plainPath directory
  if Host.holdsNul directory then throw .path
  changeFiles fun tree here => tree.makeFolders here directory
  let path := Host.childPath directory ["sqflint.log"]
  writeHeader path (sessionMetadata (← get).now directory plan.metadata)
  listenInFile path plan.fileLevel
  listenInFile (Host.childPath directory ["error.log"]) (.str Level.error.name)
  modify fun session => session.emit [⟨.info, "Logging initialized: " ++ directory⟩]
  pure directory

/-- Something that ends a program before its time. -/
inductive Uncaught where
  /-- The user interrupts the program. -/
  | interrupt (kind text : String)
  | failure (kind text : String)
deriving DecidableEq, Repr

/-- A kind of failure with its text, if it has one. -/
def described (kind text : String) : String :=
  if text.isEmpty then kind else kind ++ ": " ++ text

/-- Tell about what ends the program: an interruption is printed, everything else is logged. -/
def Session.reportUncaught (session : Session) : Uncaught -> Session
  | .interrupt kind text => session.print (described kind text ++ "\n")
  | .failure kind text =>
    session.emit [⟨.error, "Uncaught exception:\n" ++ described kind text ++ "\n"⟩]

end LintClient.Log
