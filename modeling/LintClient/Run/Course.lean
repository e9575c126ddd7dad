import LintClient.Run.Exchange

/-!
# The course of a run

How the exchange with a child goes in time. The life of the child and the interruptions of the run
are put in the order of their moments. What happens at the same moment happens in this order: a pipe
turns out to be unreadable, the run is interrupted, the delivery ends, something arrives, the pipes
end, the child exits, all pipes are disconnected. Whatever time a child is given is over behind all
of that. A child that is stopped takes no further part, but its pipes stay connected as long as
other processes hold them.
-/

namespace LintClient.Run

open Launch (Moment Child)

/-- When all pipes of a child are disconnected that nobody interrupts, if ever: the one that it
reads from when its text is taken or it stops reading, and the ones that it writes into when they
are closed. -/
def disconnectionOf (child : Child) : Option Moment :=
  match child.delivery with
  | .taken moment | .broken moment => child.closed.map (max moment)
  | .stuck => none

/-- What happens in the life of a child that nobody interrupts. -/
def lifeOf (child : Child) : List (Moment × Happening) :=
  let delivery := match child.delivery with
    | .taken moment => [(moment, Happening.delivered)]
    | .broken moment => [(moment, .undelivered .stoppedReading)]
    | .stuck => []
  let arrivals := child.arrivals.map fun (moment, arrival) => (moment, Happening.arrived arrival)
  let ends := match child.closed with
    | some moment => [(moment, Happening.ended .output), (moment, .ended .message)]
    | none => []
  let exit := match child.exit with
    | some moment => [(moment, Happening.exited child.status)]
    | none => []
  let disconnection := match disconnectionOf child with
    | some moment => [(moment, Happening.disconnected)]
    | none => []
  delivery ++ arrivals ++ ends ++ exit ++ disconnection

/-- What happens to the pipes of a child that is stopped at a moment. -/
def remainsOf (child : Child) (moment : Moment) : List (Moment × Happening) :=
  match Launch.heldAfter child.holders moment with
  | some held => [(held, .ended .output), (held, .ended .message), (held, .disconnected)]
  | none => []

/-- What the conditions of a run and its time limit bring about. -/
def intrusions (conditions : Conditions) (limit : Option Moment) : List (Moment × Happening) :=
  (conditions.fault.map fun fault => (0, Happening.unreadable (.broken fault))).toList
    ++ (limit.map fun moment => (moment, Happening.interrupted .timeout)).toList
    ++ (conditions.cancelled.map fun moment => (moment, Happening.interrupted .cancellation)).toList

/-- Whether something happens no later than something else. -/
def notLater (earlier later : Moment × Happening) : Bool := earlier.1 ≤ later.1

/-- Everything that happens, in the order of moments. -/
def timetable (conditions : Conditions) (limit : Option Moment) (child : Child) :
    List (Moment × Happening) :=
  (intrusions conditions limit ++ lifeOf child).mergeSort notLater

/-- Whether something happens whatever the child does. -/
def Happening.isIntrusion : Happening -> Bool
  | .unreadable _ | .interrupted _ => true
  | _ => false

/-- Everything that still happens, in the order of moments, once a child is stopped. -/
def timetableAfter (child : Child) (moment : Moment) (rest : List (Moment × Happening)) :
    List (Moment × Happening) :=
  (rest.filter (·.2.isIntrusion) ++ remainsOf child moment).mergeSort notLater

/-- The exit status of a child that does what it was last told. -/
def obedience? (child : Child) : Stage -> Option Int
  | .stopping _ (.asked _) => if child.obeysTermination then some (-15) else none
  | .stopping _ _ => some (-9)
  | _ => none

namespace Exchange

variable (conditions : Conditions) (limit : Json) (child : Child)

/-- The deadline of an exchange that is over before time comes to a moment, or goes on for ever. -/
def overdue? (exchange : Exchange) (moment : Option Moment) : Option Moment :=
  exchange.stage.deadline?.filter fun deadline => !moment.any (· ≤ deadline)

/-- The exchange when time has come to a moment, or goes on for ever. -/
def pass (exchange : Exchange) (moment : Option Moment) : Exchange :=
  match exchange.overdue? moment with
  | some deadline => exchange.step conditions limit deadline .graceOver
  | none => exchange

/-- The exchange after a timetable in which the child has no part. -/
def outlast (exchange : Exchange) : List (Moment × Happening) -> Exchange
  | [] => exchange.pass conditions limit none
  | (moment, happening) :: rest =>
    let current := exchange.pass conditions limit (some moment)
    if current.isOver then current
    else outlast (current.step conditions limit moment happening) rest

/-- The exchange with a child that does what it was last told, at a moment at which `rest` is still
to come. -/
def obey? (exchange : Exchange) (moment : Moment) (rest : List (Moment × Happening)) :
    Option Exchange :=
  (obedience? child exchange.stage).map fun status =>
    (exchange.step conditions limit moment (.exited status)).outlast conditions limit
      (timetableAfter child moment rest)

/-- The exchange when the time is over that the child was given. If the child has nothing to obey
then, it has exited, and the exchange is over. -/
def overrun (exchange : Exchange) (deadline : Moment) (rest : List (Moment × Happening)) :
    Exchange :=
  let next := exchange.step conditions limit deadline .graceOver
  (next.obey? conditions limit child deadline rest).getD next

/-- The exchange after a timetable. -/
def follow (exchange : Exchange) : List (Moment × Happening) -> Exchange
  | [] =>
    match exchange.overdue? none with
    | some deadline => exchange.overrun conditions limit child deadline []
    | none => exchange
  | (moment, happening) :: rest =>
    if exchange.isOver then exchange
    else match exchange.overdue? (some moment) with
    | some deadline =>
      exchange.overrun conditions limit child deadline ((moment, happening) :: rest)
    | none =>
      let next := exchange.step conditions limit moment happening
      (next.obey? conditions limit child moment rest).getD (follow next rest)

end Exchange

end LintClient.Run
