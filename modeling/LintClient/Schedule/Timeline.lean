import LintClient.Schedule.Scheduler

/-!
# A scheduler in time

A scheduler lives on an event loop: callbacks wait in a queue and timers wait for their time. One
turn of the loop takes the callbacks that are ready, then those whose time has come, and performs
them in order; what they set off waits for a later turn. Time stands still until nothing is left
to do, and then goes to the next timer. What is asked for from outside has a turn of its own.

The clock has a resolution: a turn takes the timers that are early by less than that, but no turn is
taken for their sake. Times are of any ordered type with addition; a time that is in no order with
the others counts as come. How long runs take and how they end is given by a runner; a run that
takes no time still gives way to the other callbacks once.
-/

namespace LintClient.Schedule

/-- What the loop does at a turn. -/
inductive Callback where
  /-- The debounce timer of a request fires. -/
  | debounceOver (request : Nat)
  /-- The run takes its next step. -/
  | runStep
  /-- The time that the run takes is over. -/
  | runSlept
  /-- The follow-up of a settled request is due. -/
  | settled (request : Nat)
  /-- The run that a waiter watched is over. -/
  | runOver (waiter : Nat) (cancelled : Bool)
  /-- A waiter looks whether a run is in flight. -/
  | waiterStep (waiter : Nat)
  /-- A waiter learns that the run was cancelled. -/
  | waiterCancelled (waiter : Nat)
deriving DecidableEq, Repr

/-- What has become of someone who waits until no run is in flight. -/
inductive Waiter where
  | waiting
  | done
  | cancelled
deriving DecidableEq, Repr

/-- A run with the time of its start and, once it is over, of its end. -/
structure RunRecord (τ : Type) where
  contents : String
  started : τ
  ended : Option τ
deriving DecidableEq, Repr

/-- How long a run takes and how it ends. A run that has no duration ends in its first step. -/
structure Performance (τ ρ : Type) where
  duration : Option τ
  ending : RunEnd ρ

/-- The resolution of the clock, the debounce interval, if it is one, and what the run of the given
number makes of a text. -/
structure Setting (τ ρ : Type) where
  resolution : τ
  debounce : Option τ
  runner : Nat -> String -> Performance τ ρ

/-- A scheduler on its event loop. -/
structure Timeline (τ ρ : Type) where
  now : τ
  scheduler : Scheduler ρ
  ready : List Callback
  /-- The armed timers in the order in which they were armed. -/
  timers : List (τ × Callback)
  runs : List (RunRecord τ)
  /-- The greatest number of runs that were in flight at once. -/
  peak : Nat
  waiters : List Waiter
  /-- The waiters that watch the run in flight. -/
  watchers : List Nat
  /-- Texts to lint once a request has been settled, whatever its outcome. -/
  followUps : List (Nat × String)
deriving Repr

namespace Timeline

variable {τ ρ : Type}

/-- The beginning of a timeline. -/
def start (now : τ) : Timeline τ ρ :=
  ⟨now, .start, [], [], [], 0, [], [], []⟩

/-- Put a callback into the queue. -/
def soon (timeline : Timeline τ ρ) (callback : Callback) : Timeline τ ρ :=
  { timeline with ready := timeline.ready ++ [callback] }

/-- Arm a timer. -/
def later [Add τ] (timeline : Timeline τ ρ) (delay : τ) (callback : Callback) : Timeline τ ρ :=
  { timeline with timers := timeline.timers ++ [(timeline.now + delay, callback)] }

/-- Queue what an effect of the scheduler sets off. -/
def absorb (timeline : Timeline τ ρ) : Effect -> Timeline τ ρ
  | .settled request => timeline.soon (.settled request)
  | .created _ => timeline.soon .runStep

/-- Let an event happen to the scheduler. -/
def happen (timeline : Timeline τ ρ) (event : Event ρ) : Timeline τ ρ :=
  let (scheduler, effects) := timeline.scheduler.step event
  effects.foldl absorb { timeline with scheduler := scheduler }

/-- Ask for a text to be linted, and for another one after that if there is a follow-up. Without a
debounce interval the request is pending, but no timer can be armed for it. -/
def request [Add τ] (setting : Setting τ ρ) (timeline : Timeline τ ρ) (contents : String)
    (followUp : Option String) : Timeline τ ρ :=
  let number := timeline.scheduler.requests.length
  let asked := timeline.happen (.request contents)
  match setting.debounce with
  | none => { asked with scheduler := { asked.scheduler with timer := false } }
  | some debounce =>
    let asked := asked.later debounce (.debounceOver number)
    match followUp with
    | some text => { asked with followUps := asked.followUps ++ [(number, text)] }
    | none => asked

/-- Drop the pending request. -/
def close (timeline : Timeline τ ρ) : Timeline τ ρ :=
  timeline.happen .close

/-- Cancel a request, and tell whether it was unsettled. -/
def cancel (timeline : Timeline τ ρ) (request : Nat) : Timeline τ ρ × Bool :=
  (timeline.happen (.cancel request), timeline.scheduler.isOpen request)

/-- Add someone who waits until no run is in flight. -/
def waitIdle (timeline : Timeline τ ρ) : Timeline τ ρ :=
  let joined := { timeline with waiters := timeline.waiters ++ [Waiter.waiting] }
  joined.soon (.waiterStep timeline.waiters.length)

/-- Settle a waiter. -/
def release (timeline : Timeline τ ρ) (waiter : Nat) (outcome : Waiter) : Timeline τ ρ :=
  { timeline with waiters := timeline.waiters.set waiter outcome }

/-- The text of a request. -/
def contentsOf (timeline : Timeline τ ρ) (request : Nat) : String :=
  (timeline.scheduler.requests[request]?.map (·.contents)).getD ""

/-- The number of runs that have started and not ended. -/
def inFlight (runs : List (RunRecord τ)) : Nat :=
  runs.countP (·.ended.isNone)

/-- The last step of a run: it tells of its end. -/
def finishRun (setting : Setting τ ρ) (timeline : Timeline τ ρ) (request : Nat) :
    Timeline τ ρ :=
  let contents := timeline.contentsOf request
  let ending := (setting.runner (timeline.runs.length - 1) contents).ending
  let cancelled := match ending with
    | .cancelled => true
    | .answered _ => false
  let ended := timeline.happen (.runEnds ending)
  let runs := ended.runs.modify (ended.runs.length - 1) fun record =>
    { record with ended := some ended.now }
  timeline.watchers.foldl (fun timeline waiter => timeline.soon (.runOver waiter cancelled))
    { ended with runs := runs, watchers := [] }

/-- The first step of a run: it is handed its text. A run that takes time waits for a timer, one
that takes none for its next turn. -/
def beginRun [Add τ] [OfNat τ 0] [LE τ] [DecidableLE τ] (setting : Setting τ ρ)
    (timeline : Timeline τ ρ) (request : Nat) : Timeline τ ρ :=
  let contents := timeline.contentsOf request
  let begun := timeline.happen .runStarts
  let record : RunRecord τ := ⟨contents, begun.now, none⟩
  let runs := begun.runs ++ [record]
  let begun := { begun with runs := runs, peak := max begun.peak (inFlight runs) }
  match (setting.runner timeline.runs.length contents).duration with
  | some duration =>
    if duration ≤ 0 then begun.soon .runStep else begun.later duration .runSlept
  | none => begun.finishRun setting request

/-- Perform a callback. A debounce timer that was disarmed after its time came does nothing. -/
def perform [Add τ] [OfNat τ 0] [LE τ] [DecidableLE τ] (setting : Setting τ ρ)
    (timeline : Timeline τ ρ) (callback : Callback) : Timeline τ ρ :=
  match callback with
  | .debounceOver request =>
    if timeline.scheduler.timer && timeline.scheduler.pending == some request then
      timeline.happen .timerFires
    else timeline
  | .runStep =>
    match timeline.scheduler.active with
    | some ⟨request, .created⟩ => timeline.beginRun setting request
    | some ⟨request, .running⟩ => timeline.finishRun setting request
    | _ => timeline
  | .runSlept => timeline.soon .runStep
  | .settled number =>
    match timeline.followUps.lookup number with
    | some text => timeline.request setting text none
    | none => timeline
  | .runOver waiter cancelled =>
    timeline.soon (if cancelled then .waiterCancelled waiter else .waiterStep waiter)
  | .waiterStep waiter =>
    match timeline.scheduler.active with
    | none => timeline.release waiter .done
    | some ⟨_, .lost⟩ => timeline.release waiter .cancelled
    | some _ => { timeline with watchers := timeline.watchers ++ [waiter] }
  | .waiterCancelled waiter => timeline.release waiter .cancelled

/-- The earliest of some timers, and the others. Of timers for the same time the one that was armed
first comes first. -/
def takeEarliest? [LT τ] [DecidableLT τ] :
    List (τ × Callback) -> Option ((τ × Callback) × List (τ × Callback))
  | [] => none
  | timer :: timers =>
    match takeEarliest? timers with
    | none => some (timer, [])
    | some (earliest, others) =>
      if earliest.1 < timer.1 then some (earliest, timer :: others) else some (timer, timers)

/-- The time of the earliest timer. -/
def nextTime? [LT τ] [DecidableLT τ] (timeline : Timeline τ ρ) : Option τ :=
  (takeEarliest? timeline.timers).map (·.1.1)

/-- The callbacks of the timers up to an end, at most `count` of them, and the other timers. -/
def takeUntil [LE τ] [DecidableLE τ] [LT τ] [DecidableLT τ] (ending : τ) (count : Nat)
    (timers : List (τ × Callback)) : List Callback × List (τ × Callback) :=
  match count, takeEarliest? timers with
  | count + 1, some (earliest, others) =>
    if ending ≤ earliest.1 then ([], timers)
    else
      let (due, others) := takeUntil ending count others
      (earliest.2 :: due, others)
  | _, _ => ([], timers)

/-- One turn of the loop, in which something from outside is done before the timers whose time has
come. -/
def turnWith [Add τ] [OfNat τ 0] [LE τ] [DecidableLE τ] [LT τ] [DecidableLT τ]
    {α : Type} (setting : Setting τ ρ) (timeline : Timeline τ ρ)
    (act : Timeline τ ρ -> Timeline τ ρ × α) : Timeline τ ρ × α :=
  let (due, others) :=
    takeUntil (timeline.now + setting.resolution) timeline.timers.length timeline.timers
  let begun := timeline.ready.foldl (perform setting)
    { timeline with ready := [], timers := others }
  let (acted, result) := act begun
  (due.foldl (perform setting) acted, result)

/-- One turn of the loop. -/
def turn [Add τ] [OfNat τ 0] [LE τ] [DecidableLE τ] [LT τ] [DecidableLT τ]
    (setting : Setting τ ρ) (timeline : Timeline τ ρ) : Timeline τ ρ :=
  (timeline.turnWith setting fun begun => (begun, ())).1

/-- Whether something can be done without time going on. -/
def isBusy [LT τ] [DecidableLT τ] (timeline : Timeline τ ρ) : Bool :=
  !timeline.ready.isEmpty || timeline.nextTime?.any fun time => !(timeline.now < time)

/-- Take turns until nothing is left to do, or `turns` times. -/
def settleWithin [Add τ] [OfNat τ 0] [LE τ] [DecidableLE τ] [LT τ] [DecidableLT τ]
    (setting : Setting τ ρ) (turns : Nat) (timeline : Timeline τ ρ) : Timeline τ ρ :=
  match turns with
  | 0 => timeline
  | turns + 1 =>
    if timeline.isBusy then (timeline.turn setting).settleWithin setting turns else timeline

/-- A bound on the callbacks that can still be performed without a new request from outside: each
request and each follow-up has a debounce timer, a run of at most three callbacks and a settlement,
and a waiter is told of each run twice at most. -/
def callbackBound (timeline : Timeline τ ρ) : Nat :=
  (timeline.scheduler.requests.length + timeline.followUps.length + 1)
      * (2 * timeline.waiters.length + 8)
    + timeline.ready.length + timeline.timers.length

/-- Do everything that can be done without time going on. -/
def settle [Add τ] [OfNat τ 0] [LE τ] [DecidableLE τ] [LT τ] [DecidableLT τ]
    (setting : Setting τ ρ) (timeline : Timeline τ ρ) : Timeline τ ρ :=
  timeline.settleWithin setting timeline.callbackBound

/-- Do something from outside, and then everything that can be done without time going on. -/
def interact [Add τ] [OfNat τ 0] [LE τ] [DecidableLE τ] [LT τ] [DecidableLT τ]
    {α : Type} (setting : Setting τ ρ) (timeline : Timeline τ ρ)
    (act : Timeline τ ρ -> Timeline τ ρ × α) : Timeline τ ρ × α :=
  let (acted, result) := timeline.turnWith setting act
  (acted.settle setting, result)

/-- Let time go on to a target, from timer to timer, with at most `stops` of them. -/
def advanceWithin [Add τ] [OfNat τ 0] [LE τ] [DecidableLE τ] [LT τ] [DecidableLT τ]
    (setting : Setting τ ρ) (target : τ) (stops : Nat) (timeline : Timeline τ ρ) :
    Timeline τ ρ :=
  match stops with
  | 0 => { timeline with now := target }
  | stops + 1 =>
    match timeline.nextTime? with
    | some time =>
      if target < time then { timeline with now := target }
      else ({ timeline with now := time }.settle setting).advanceWithin setting target stops
    | none => { timeline with now := target }

/-- Let time go on for a while. Everything that falls due on the way is done at its time. -/
def advance [Add τ] [OfNat τ 0] [LE τ] [DecidableLE τ] [LT τ] [DecidableLT τ]
    (setting : Setting τ ρ) (timeline : Timeline τ ρ) (duration : τ) : Timeline τ ρ :=
  (timeline.advanceWithin setting (timeline.now + duration) timeline.callbackBound).settle setting

end Timeline

end LintClient.Schedule
