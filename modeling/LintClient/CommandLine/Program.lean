import LintClient.CommandLine.Output
import LintClient.CommandLine.Settings
import LintClient.Config.Validation
import LintClient.Launch.Start
import LintClient.Log.Session
import LintClient.Run.Basic

/-!
# The program

A call of the program: the arguments are read, the settings are gathered and checked, logging is set
up, and the paths are linted one after the other. Nothing is printed before all of them are. A
failure of the settings, of a path or of its run ends the program with its own exit status; what
nobody foresees ends it as it is.
-/

namespace LintClient.CommandLine

open Config (SourceFault)
open Launch (Launcher)
open Log (Session SetupFault)
open Text (Source)

/-- Something that nobody handles. -/
inductive Escape where
  | misused (cause : Json.Misuse)
  | source (fault : SourceFault)
  | setup (fault : SetupFault)
  | undeliverable (run : Source.StrayRun)
  /-- A path holds a character that no path may hold. -/
  | path
  | unforeseen
  | cancelled
  | endless
deriving Repr

/-- How a program ends. -/
inductive Exit where
  | status (code : Nat)
  | escape (cause : Escape)
deriving Repr

/-- The status that a process exits with, unless it never ends. What nobody handles ends a process
with the status of errors in the reports. -/
def Exit.code? : Exit -> Option Nat
  | .status code => some code
  | .escape .endless => none
  | .escape _ => some 1

/-- The exit status of a failure. -/
def failureStatus : Nat := 2

/-- The surroundings of a call: the session, what is left of standard input, and what the program
has printed. -/
structure Desk where
  session : Session
  input : List UInt8
  output : String
deriving Repr

namespace Desk

/-- The desk at the start of a program. -/
def start (host : Host) (now : Log.Stamp) (input : List UInt8) : Desk :=
  ⟨.start host now, input, ""⟩

/-- Log records. -/
def emit (desk : Desk) (records : List LogRecord) : Desk :=
  { desk with session := desk.session.emit records }

/-- Write a text on the error stream, with a newline behind it. -/
def complain (desk : Desk) (text : String) : Desk :=
  { desk with session := desk.session.print (text ++ "\n") }

/-- The desk after files may have changed. -/
def withFiles (desk : Desk) (files : Option Host.FileTree) : Desk :=
  match files with
  | some tree =>
    { desk with session := { desk.session with host := { desk.session.host with tree } } }
  | none => desk

/-- Print text. -/
def print (desk : Desk) (text : String) : Desk :=
  { desk with output := desk.output ++ text }

end Desk

/-- The mark in front of a failure on the error stream. -/
def failureMark : String := "\x1b[0;31m[ERROR]\x1b[0m "

/-- Why a program does not go on: a failure that it tells about, or something that nobody
handles. -/
inductive Halt where
  | failure (message : String)
  | escape (cause : Escape)
deriving Repr

/-- End a program. -/
def Desk.halt (desk : Desk) : Halt -> Desk × Exit
  | .failure message => (desk.complain (failureMark ++ message), .status failureStatus)
  | .escape cause => (desk, .escape cause)

/-- What becomes of a source of settings that cannot be read. A file, a path or a text that is not
as it should be is a failure; a value of the wrong kind is not foreseen. -/
def sourceHalt (fault : SourceFault) : Halt :=
  let message := fault.message?.getD ""
  match fault with
  | .file _ | .path | .encoding _ | .words _ | .duration _ => .failure message
  | .json refusal _ =>
    if refusal.cause = .nestedTooDeep then .escape (.source fault) else .failure message
  | .misuse _ => .escape (.source fault)

/-- What becomes of a setting that cannot be looked at. -/
def obstacleHalt : Config.Obstacle -> Halt
  | .misuse cause => .escape (.misused cause)
  | .file error => .failure error.message

/-- The settings of a call, if they are valid. -/
def settings (host : Host) (arguments : Arguments) : Except Halt Config := do
  let config ← (config host arguments).mapError sourceHalt
  let complaints ← (config.complaints host).mapError obstacleHalt
  if complaints.isEmpty then pure config
  else throw (.failure (Config.invalid complaints).text)

/-- The facts about a call for the header of a log file. -/
def callMetadata (arguments : Arguments) (config : Config) : Except Json.Misuse Log.Metadata := do
  let text := Source.joined (← Run.wordsOf (← config.command.elements))
  pure [("Files", .str (", ".intercalate arguments.files)),
    ("Command", if text.isEmpty then .null else .ofSource text)]

/-- Set up logging. -/
def setUp (arguments : Arguments) (config : Config) (desk : Desk) : Desk × Except Halt Unit :=
  match config.logLevel.uppered with
  | .error cause => (desk, .error (.escape (.misused cause)))
  | .ok level =>
    let perform (setup : Log.Setup Unit) : Desk × Except Halt Unit :=
      let (result, session) := setup.run desk.session
      ({ desk with session }, result.mapError fun fault => .escape (.setup fault))
    match said arguments.logDir with
    | none => perform (Log.listenOnConsole (.str level))
    | some directory =>
      match callMetadata arguments config with
      | .error cause => (desk, .error (.escape (.misused cause)))
      | .ok metadata =>
        perform (discard (Log.listenInDirectory directory
          { Log.Plan.usual with consoleLevel := .str level, metadata }))

/-- The text at a path. Standard input can be read once only. -/
def readSource (desk : Desk) (path : String) : Except Halt (Source × Desk) :=
  if path = "-" then .ok (Source.ofInput desk.input, { desk with input := [] })
  else if Host.holdsNul path then .error (.escape .path)
  else
    let path := Host.plainPath path
    match desk.session.host.read path with
    | .ok bytes => .ok (Source.ofFile bytes, desk)
    | .error error => .error (.failure error.message)

/-- The report of a run, or why the program does not go on. -/
def reportOf : Run.Ending -> Except Halt LintReport
  | .report report => .ok report
  | .failed failure => .error (.failure failure.text)
  | .undeliverable run => .error (.escape (.undeliverable run))
  | .obstructed cause => .error (obstacleHalt cause)
  | .unforeseen => .error (.escape .unforeseen)
  | .cancelled => .error (.escape .cancelled)
  | .endless => .error (.escape .endless)

/-- What runs of the linter come to. A run has its number, since no two of them need to come to the
same, the host on which it takes place, and the text that it is given. -/
abbrev Linter := Nat -> Host -> Source -> Run.Outcome

/-- The linter that settings ask for, given how commands are started. Log records name its children
by the label. -/
def linterOf (launch : Launcher) (label : String) (config : Config) : Linter :=
  fun _ host source => Run.run launch host config (.usual label) source

/-- Lint one path, by the run of the given number. -/
def lintPath (linter : Linter) (number : Nat) (desk : Desk) (path : String) :
    Desk × Except Halt LintReport :=
  match readSource desk path with
  | .error halt => (desk, .error halt)
  | .ok (source, desk) =>
    let desk := desk.emit [.about "SQFLint" .debug
      ("Linting " ++ path ++ " (" ++ toString source.length ++ " chars)")]
    let outcome := linter number desk.session.host source
    let desk := (desk.withFiles outcome.files).emit outcome.records
    match reportOf outcome.ending with
    | .error halt => (desk, .error halt)
    | .ok report =>
      (desk.emit [.about "SQFLint" .info (path ++ ": " ++ report.summary)], .ok report)

/-- Lint paths one after the other, up to the first that does not give a report. The first run has
the given number. -/
def lintPaths (linter : Linter) (number : Nat) (desk : Desk) :
    List String -> Desk × Except Halt (List Result)
  | [] => (desk, .ok [])
  | path :: paths =>
    match lintPath linter number desk path with
    | (desk, .error halt) => (desk, .error halt)
    | (desk, .ok report) =>
      let (desk, results) := lintPaths linter (number + 1) desk paths
      (desk, results.map ((path, report) :: ·))

/-- Do what arguments ask for, with the linter that the settings ask for. -/
def lint (linterOf : Config -> Linter) (arguments : Arguments) (desk : Desk) : Desk × Exit :=
  match settings desk.session.host arguments with
  | .error halt => desk.halt halt
  | .ok config =>
    match setUp arguments config desk with
    | (desk, .error halt) => desk.halt halt
    | (desk, .ok ()) =>
      match lintPaths (linterOf config) 0 desk arguments.files with
      | (desk, .error halt) => desk.halt halt
      | (desk, .ok results) =>
        (desk.print (printed arguments.json arguments.listsVariables results),
          .status (exitStatus results))

/-- Call the program. -/
def call (label : String) (desk : Desk) (given : List String) : Desk × Exit :=
  match parse given with
  | .ok arguments => lint (linterOf Launch.start label) arguments desk
  | .error .help => (desk.print helpText, .status 0)
  | .error (.complaint complaint) =>
    (desk.complain (complaintText complaint), .status failureStatus)

end LintClient.CommandLine
