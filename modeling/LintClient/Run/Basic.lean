import LintClient.Launch.Command
import LintClient.Launch.Start
import LintClient.Run.Course
import LintClient.Run.Limit

/-!
# Runs

One run of the linter: the command is built and started, the text is delivered, and what the child
writes becomes the report. The exit status does not matter for the report. A run that fails tells
why, and whether it leaves a child behind. How a command is started, and so what its child does, is
up to a launcher.
-/

namespace LintClient.Run

open Launch (Moment Child Launcher)
open Text (Source)

/-- How a run ends. -/
inductive Ending where
  | report (report : LintReport)
  | failed (failure : LintError)
  /-- The text has no form in which it could be delivered. -/
  | undeliverable (run : Text.Source.StrayRun)
  /-- A setting cannot be looked at. -/
  | obstructed (cause : Config.Obstacle)
  /-- Something happened that nobody handles. -/
  | unforeseen
  | cancelled
  /-- The run never ends. -/
  | endless
deriving Repr

/-- What comes of a run. -/
structure Outcome where
  ending : Ending
  records : List LogRecord
  /-- Whether the child may still be running. -/
  leavesChild : Bool
  /-- The files after the run, if a child may have changed them. -/
  files : Option Host.FileTree
deriving Repr

/-- An outcome without a child. -/
def Outcome.childless (ending : Ending) (records : List LogRecord) : Outcome :=
  ⟨ending, records, false, none⟩

/-- Put records in front of those of an outcome. -/
def Outcome.after (records : List LogRecord) (outcome : Outcome) : Outcome :=
  { outcome with records := records ++ outcome.records }

/-- The failure of a run whose child had to be stopped. -/
def failureOf (command : List String) (limit : Json) : StopCause -> LintError
  | .timeout => .ofCommand (.timeout limit) command "Linter run timed out"
  | .undelivered => .ofCommand .write command undeliveredMessage
  | .unreadable fault =>
    .ofCommand .fault command ("Failed to read linter output: " ++ fault.message)

/-- How a run ends with an exchange. The report of a run that comes to its end is frozen. -/
def Exchange.ending (command : List String) (limit : Json) (exchange : Exchange) : Ending :=
  match exchange.stage with
  | .ended .finished => .report exchange.listening.report.freeze
  | .ended (.stopped cause) => .failed (failureOf command limit cause)
  | .ended (.unwritable run) => .undeliverable run
  | .ended .unforeseen => .unforeseen
  | .ended .cancelled => .cancelled
  | _ => .endless

/-- What comes of an exchange. A child whose exit is not known may still be running. -/
def Exchange.outcome (command : List String) (limit : Json) (exchange : Exchange) : Outcome :=
  ⟨exchange.ending command limit, exchange.listening.records, exchange.status.isNone, none⟩

/-- The exchange with a child to which a text is delivered. -/
def exchangeWith (conditions : Conditions) (limit : Json) (moment : Option Moment)
    (child : Child) : Exchange :=
  Exchange.start.follow conditions limit child (timetable conditions moment child)

/-- The exchange with a child when the text has no form in which it could be delivered. -/
def exchangeWithout (conditions : Conditions) (limit : Json) (run : Source.StrayRun) : Exchange :=
  Exchange.start.step conditions limit 0 (.undelivered (.unwritable run))

/-- The exchange with a child when time is over from the start: the child has not done anything yet
and obeys. -/
def exchangeOverdue (conditions : Conditions) (limit : Json) : Exchange :=
  ((Exchange.start.step conditions limit 0 (.interrupted .timeout)).step conditions limit 0
    (.exited (-15))).step conditions limit 0 .disconnected

/-- The run of a child that has been started. -/
def runChild (conditions : Conditions) (command : List String) (limit : Json) (source : Source)
    (behave : List UInt8 -> Child) : Outcome :=
  let limit := if limit.isPresent then limit else .null
  let withLimit (moment : Option Moment) : Outcome :=
    match source.encode with
    | .error run => (exchangeWithout conditions limit run).outcome command limit
    | .ok text =>
      let child := behave text
      { (exchangeWith conditions limit moment child).outcome command limit with
        files := some child.files }
  match limitOf limit with
  | .error cause => ⟨.obstructed (.misuse cause), [], true, none⟩
  | .ok .expired => (exchangeOverdue conditions limit).outcome command limit
  | .ok .unlimited => withLimit none
  | .ok (.after moment) => withLimit (some moment)

/-- Start a command and run its child. -/
def runCommand (launch : Launcher) (host : Host) (conditions : Conditions) (limit : Json)
    (source : Source) (name : Source) (arguments : List Source) : Outcome :=
  let command := (name :: arguments).map Source.shown
  let starting := LogRecord.about "Linter" .debug ("Starting: " ++ " ".intercalate command)
  match launch host name arguments with
  | .error fault =>
    .childless
      (.failed (.ofCommand .launch command
        ("Failed to launch linter process: " ++ fault.message)))
      [starting, .about "Linter" .error
        ("Failed to call sqflint. Do you have java installed? (" ++ fault.message ++ ")")]
  | .ok behave =>
    (runChild conditions command limit source behave).after
      [starting, conditions.record .debug "Started"]

/-- The text that is a word of a command. -/
def wordOf : Json -> Except Json.Misuse Source
  | .str word => .ok (.ofString word)
  | .stray word => .ok word.source
  | _ => .error .unsupported

/-- The words of a command. -/
def wordsOf (items : List Json) : Except Json.Misuse (List Source) :=
  items.mapM wordOf

/-- Run the linter on a text. -/
def run (launch : Launcher) (host : Host) (config : Config) (conditions : Conditions)
    (source : Source) : Outcome :=
  let notes := if config.command.isPresent then [] else Launch.javaNotes host config.javaPath
  match Launch.command host config with
  | .error fault =>
    match fault.failure with
    | .ok failure => .childless (.failed failure) notes
    | .error cause => .childless (.obstructed cause) notes
  | .ok items =>
    match wordsOf items with
    | .ok (name :: arguments) =>
      (runCommand launch host conditions config.timeout source name arguments).after notes
    | .ok [] => .childless (.obstructed (.misuse .unsupported)) notes
    | .error cause => .childless (.obstructed (.misuse cause)) notes

end LintClient.Run
