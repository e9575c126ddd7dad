import LintClient.Json.Display
import LintClient.Run.Listening
import LintClient.Text.Source

/-!
# The exchange with a child

Once a child has been started, a run delivers the text to it, reads its two pipes and waits for its
exit, all at once. An exchange is what a run has come to, and `Exchange.step` says what it makes of
whatever happens next: it goes on, it stops the child, or it is over. In which order things happen
is left open.

Whoever waits for a child is told that it is gone when it has exited and all its pipes are
disconnected: other processes that still hold a pipe keep him waiting. An exit that is known already
is not waited for.
-/

namespace LintClient.Run

open Launch (Moment Arrival)
open Text (Source)

/-- What interrupts a run. -/
inductive Interruption where
  | timeout
  | cancellation
deriving DecidableEq, Repr

/-- One of the pipes of a child. -/
inductive Pipe where
  | output
  | message
deriving DecidableEq, Repr

/-- A pipe that cannot be read. -/
structure PipeFault where
  pipe : Pipe
  message : String
deriving DecidableEq, Repr

/-- Under which conditions a run takes place. -/
structure Conditions where
  /-- How log records name the child. -/
  label : String
  /-- How long a child may take to exit after it has stopped reading. -/
  exitGrace : Moment
  /-- How long a child may take to exit after it was asked to terminate. -/
  killGrace : Moment
  /-- A pipe that cannot be read. -/
  fault : Option PipeFault
  /-- When the run is cancelled. -/
  cancelled : Option Moment
deriving Repr

/-- The usual conditions for a child of the given name. -/
def Conditions.usual (label : String) : Conditions :=
  ⟨label, 1000000, 2000000, none, none⟩

/-- The party that records about the child are about. -/
def Conditions.source (conditions : Conditions) : String :=
  "Linter:" ++ conditions.label

/-- A record about the child. -/
def Conditions.record (conditions : Conditions) (level : Level) (message : String) : LogRecord :=
  .about conditions.source level message

/-- Why a text is not delivered. -/
inductive DeliveryFault where
  /-- The child has stopped reading. -/
  | stoppedReading
  /-- The text has no form in which it could be delivered. -/
  | unwritable (run : Source.StrayRun)
  /-- The pipe gave up, which is taken for the end of the time of the run. -/
  | overdue
  /-- Something that nobody handles. -/
  | unforeseen
deriving DecidableEq, Repr

/-- Why a pipe is not read to its end. -/
inductive ReadFault where
  | broken (fault : PipeFault)
  /-- Something that nobody handles. -/
  | unforeseen (pipe : Pipe)
deriving DecidableEq, Repr

/-- The pipe that is not read to its end. -/
def ReadFault.pipeOf : ReadFault -> Pipe
  | .broken fault => fault.pipe
  | .unforeseen pipe => pipe

/-- Something that happens while an exchange goes on. -/
inductive Happening where
  /-- The child has taken the text. -/
  | delivered
  | undelivered (fault : DeliveryFault)
  | arrived (arrival : Arrival)
  /-- A pipe has come to its end. -/
  | ended (pipe : Pipe)
  | unreadable (fault : ReadFault)
  | exited (status : Int)
  /-- The last of the pipes to and from the child is disconnected. -/
  | disconnected
  /-- The time that the child was given is over. -/
  | graceOver
  | interrupted (interruption : Interruption)
deriving DecidableEq, Repr

/-- Why a child is stopped. -/
inductive StopCause where
  | timeout
  | undelivered
  | unreadable (fault : PipeFault)
deriving DecidableEq, Repr

/-- How far the stopping of a child has come. -/
inductive Stopping where
  /-- The child has been asked to terminate and may take until the moment. -/
  | asked (deadline : Moment)
  /-- The child has been killed and may take until the moment. -/
  | killed (deadline : Moment)
  /-- The child has been killed for lack of an exit, which is awaited without limit. -/
  | enforced
deriving DecidableEq, Repr

/-- How an exchange ends. -/
inductive Verdict where
  /-- The child has exited and everything is read. -/
  | finished
  | stopped (cause : StopCause)
  | unwritable (run : Source.StrayRun)
  /-- Something happened that nobody handles. -/
  | unforeseen
  | cancelled
deriving DecidableEq, Repr

/-- What an exchange is waiting for. -/
inductive Stage where
  /-- The delivery of the text. -/
  | delivering
  /-- That a child which has stopped reading is gone, until the moment. -/
  | leaving (deadline : Moment)
  /-- The ends of the pipes. -/
  | reading
  /-- That a child which is read to its end is gone. -/
  | waiting
  /-- That a child which is being stopped is gone. -/
  | stopping (cause : StopCause) (stopping : Stopping)
  | ended (verdict : Verdict)
deriving DecidableEq, Repr

/-- The moment until which a stage waits. -/
def Stage.deadline? : Stage -> Option Moment
  | .leaving deadline | .stopping _ (.asked deadline) | .stopping _ (.killed deadline) =>
    some deadline
  | _ => none

/-- What a run has come to. -/
structure Exchange where
  stage : Stage
  /-- Whether the output is still read. -/
  readsOutput : Bool
  /-- Whether what the child writes about itself is still read. -/
  readsMessages : Bool
  /-- The first pipe that could not be read to its end. -/
  readFault : Option ReadFault
  /-- The exit status of the child, once it has exited. -/
  status : Option Int
  /-- Whether there still is a pipe that is connected. -/
  isLinked : Bool
  listening : Listening
deriving Repr

/-- Why the text could not be delivered. -/
def undeliveredMessage : String := "Failed to write source to linter: "

namespace Exchange

/-- The exchange with a child that has just been started. -/
def start : Exchange := ⟨.delivering, true, true, none, none, true, .start⟩

/-- Log records. -/
def note (exchange : Exchange) (records : List LogRecord) : Exchange :=
  { exchange with
    listening := { exchange.listening with records := exchange.listening.records ++ records } }

/-- Whether a pipe is still read. -/
def reads (exchange : Exchange) : Pipe -> Bool
  | .output => exchange.readsOutput
  | .message => exchange.readsMessages

/-- Read no more of a pipe. -/
def leave (exchange : Exchange) : Pipe -> Exchange
  | .output => { exchange with readsOutput := false }
  | .message => { exchange with readsMessages := false }

/-- Whether there is nothing more to wait for from the pipes: one of them had a fault, or both have
come to their ends. -/
def isRead (exchange : Exchange) : Bool :=
  exchange.readFault.isSome || !(exchange.readsOutput || exchange.readsMessages)

/-- Whether the exchange is over. -/
def isOver (exchange : Exchange) : Bool :=
  match exchange.stage with
  | .ended _ => true
  | _ => false

/-- Whether the child is gone: it has exited, and all pipes are disconnected. -/
def isGone (exchange : Exchange) : Bool := exchange.status.isSome && !exchange.isLinked

/-- Read no more, unless that is settled anyway. -/
def abandon (exchange : Exchange) : Exchange :=
  if exchange.isRead then exchange else (exchange.leave .output).leave .message

/-- End the exchange. -/
def conclude (exchange : Exchange) (verdict : Verdict) : Exchange :=
  { exchange.abandon with stage := .ended verdict }

/-- Stop the child, unless it has exited. -/
def stop (exchange : Exchange) (cause : StopCause) (stopping : Stopping) : Exchange :=
  if exchange.status.isSome then exchange.conclude (.stopped cause)
  else { exchange with stage := .stopping cause stopping }

variable (conditions : Conditions) (limit : Json) (now : Moment)

/-- Take note of how the child has exited, and end. -/
def finish (exchange : Exchange) (status : Int) : Exchange :=
  let summary := exchange.listening.report.summary
  let malformed := exchange.listening.decoder.tally.malformed
  let ended :=
    if status = 0 then conditions.record .debug ("Finished: " ++ summary)
    else conditions.record .warning
      ("Failed to run sqflint (exit code " ++ toString status ++ "), returning partial result: "
        ++ summary)
  let skipped :=
    if malformed = 0 then []
    else [conditions.record .warning ("Skipped " ++ toString malformed ++ " malformed lines")]
  (exchange.note (ended :: skipped)).conclude .finished

/-- Go on after the delivery: read the pipes to their ends, and then wait for the exit. -/
def proceed (exchange : Exchange) : Exchange :=
  match exchange.readFault with
  | some (.broken fault) =>
    (exchange.note [conditions.record .error
      ("Failed to read linter output: " ++ fault.message)]).stop
      (.unreadable fault) (.killed (now + conditions.killGrace))
  | some (.unforeseen _) => exchange.conclude .unforeseen
  | none =>
    if exchange.isRead then
      match exchange.status with
      | some status => exchange.finish conditions status
      | none => { exchange with stage := .waiting }
    else { exchange with stage := .reading }

/-- Go on after a child that had stopped reading is gone: what it has written counts. -/
def proceedEarly (exchange : Exchange) : Exchange :=
  (exchange.note [conditions.record .debug
    ("Exited before reading all input: " ++ undeliveredMessage)]).proceed conditions now

/-- Go on after something has come of the pipes, if that was waited for. -/
def resume (exchange : Exchange) : Exchange :=
  match exchange.stage with
  | .reading => exchange.proceed conditions now
  | _ => exchange

/-- The time of the run is over. -/
def timeOut (exchange : Exchange) : Exchange :=
  (exchange.abandon.note [conditions.record .error ("Timed out after " ++ limit.plain ++ "s")]).stop
    .timeout (.asked (now + conditions.killGrace))

/-- What becomes of a delivery that fails. -/
def failDelivery (exchange : Exchange) : DeliveryFault -> Exchange
  | .stoppedReading =>
    if exchange.status.isSome then exchange.proceedEarly conditions now
    else { exchange with stage := .leaving (now + conditions.exitGrace) }
  | .unwritable run => exchange.conclude (.unwritable run)
  | .overdue => exchange.timeOut conditions limit now
  | .unforeseen => exchange.conclude .unforeseen

/-- Go on if the child is gone and that was waited for. -/
def wake (exchange : Exchange) : Exchange :=
  match exchange.status with
  | none => exchange
  | some status =>
    if exchange.isLinked then exchange
    else match exchange.stage with
    | .leaving _ => exchange.proceedEarly conditions now
    | .waiting => exchange.finish conditions status
    | .stopping cause _ => exchange.conclude (.stopped cause)
    | _ => exchange

/-- What becomes of the child's exit. -/
def exit (exchange : Exchange) (status : Int) : Exchange :=
  { exchange with status := some status }.wake conditions now

/-- What becomes of it that all pipes are disconnected. -/
def disconnect (exchange : Exchange) : Exchange :=
  { exchange with isLinked := false }.wake conditions now

/-- What becomes of a child that is not gone in the time that it was given. One that has exited
cannot be killed any more, and there is nothing more to wait for. -/
def insist (exchange : Exchange) : Exchange :=
  match exchange.stage with
  | .leaving _ =>
    (exchange.note [conditions.record .error
      ("Failed to contact the sqflint: " ++ undeliveredMessage)]).stop
      .undelivered (.killed (now + conditions.killGrace))
  | .stopping _ .enforced => exchange
  | .stopping cause _ =>
    (exchange.note [conditions.record .warning "Force killing..."]).stop cause .enforced
  | _ => exchange

/-- What becomes of an interruption. While a child is stopped because time is over, time does not
matter any more, and a cancellation ends the run at once. -/
def interrupt (exchange : Exchange) : Interruption -> Exchange
  | .timeout =>
    match exchange.stage with
    | .ended _ | .stopping .timeout _ => exchange
    | _ => exchange.timeOut conditions limit now
  | .cancellation =>
    match exchange.stage with
    | .ended _ => exchange
    | .stopping .timeout _ => exchange.conclude .cancelled
    | _ =>
      (exchange.note [conditions.record .debug "Run cancelled, killing process"]).conclude .cancelled

/-- The exchange after something has happened. What nobody waits for changes nothing. -/
def step (exchange : Exchange) : Happening -> Exchange
  | .delivered =>
    if exchange.stage = .delivering then exchange.proceed conditions now else exchange
  | .undelivered fault =>
    if exchange.stage = .delivering then exchange.failDelivery conditions limit now fault
    else exchange
  | .arrived (.output bytes) =>
    if exchange.readsOutput then
      { exchange with
        listening := exchange.listening.hear conditions.source (.output bytes) }
    else exchange
  | .arrived (.message bytes) =>
    if exchange.readsMessages then
      { exchange with
        listening := exchange.listening.hear conditions.source (.message bytes) }
    else exchange
  | .ended .output =>
    if exchange.readsOutput then
      ({ exchange with
        listening := exchange.listening.close conditions.source }.leave .output).resume
        conditions now
    else exchange
  | .ended .message =>
    if exchange.readsMessages then (exchange.leave .message).resume conditions now else exchange
  | .unreadable fault =>
    if exchange.reads fault.pipeOf then
      ({ exchange with readFault := exchange.readFault <|> some fault }.leave fault.pipeOf).resume
        conditions now
    else exchange
  | .exited status =>
    if exchange.status.isSome then exchange else exchange.exit conditions now status
  | .disconnected =>
    if exchange.isOver then exchange else exchange.disconnect conditions now
  | .graceOver => exchange.insist conditions now
  | .interrupted interruption => exchange.interrupt conditions limit now interruption

end Exchange

end LintClient.Run
