/-!
# Debounced requests

A scheduler takes lint requests and runs one linter at a time. It holds at most one pending request,
which a newer one replaces; the pending request is handed over when its debounce timer has fired and
no run is in flight. The scheduler is a transition system: an event leads from one state to the next
and has effects on whoever waits.

A run is known to the scheduler from its creation on, before it has taken its first step. A run that
is aborted in between never gets to tell of its end; it stays in its place for ever.
-/

namespace LintClient.Schedule

/-- What has become of a request. Answers, of type `ρ`, are what runs end in. -/
inductive Future (ρ : Type) where
  | unsettled
  /-- A newer request or the end of the scheduler came first. -/
  | superseded
  | cancelled
  | answered (answer : ρ)
deriving DecidableEq, Repr

/-- Whether a request waits for its answer no longer. -/
def Future.isSettled {ρ : Type} : Future ρ -> Bool
  | .unsettled => false
  | _ => true

/-- Settle a future, unless it is settled already. -/
def Future.settle {ρ : Type} (future outcome : Future ρ) : Future ρ :=
  match future with
  | .unsettled => outcome
  | settled => settled

/-- A lint request: the text to lint and what has become of it. -/
structure Request (ρ : Type) where
  contents : String
  future : Future ρ
deriving DecidableEq, Repr

/-- How far a run has come. -/
inductive RunPhase where
  /-- The run has not taken its first step. -/
  | created
  | running
  /-- The run was aborted before its first step. -/
  | lost
deriving DecidableEq, Repr

/-- The run in the scheduler's one place for runs. -/
structure ActiveRun where
  request : Nat
  phase : RunPhase
deriving DecidableEq, Repr

/-- The end of a run: an answer, or a cancellation. -/
inductive RunEnd (ρ : Type) where
  | answered (answer : ρ)
  | cancelled
deriving DecidableEq, Repr

/-- What becomes of the request of a run that ends so. -/
def RunEnd.outcome {ρ : Type} : RunEnd ρ -> Future ρ
  | .answered answer => .answered answer
  | .cancelled => .cancelled

/-- The state of a scheduler. Requests are known by their number in the order of their arrival. -/
structure Scheduler (ρ : Type) where
  requests : List (Request ρ)
  pending : Option Nat
  /-- Whether the debounce timer of the pending request is armed. -/
  timer : Bool
  active : Option ActiveRun
deriving DecidableEq, Repr

/-- What happens to a scheduler. -/
inductive Event (ρ : Type) where
  | request (contents : String)
  | close
  /-- The caller cancels a request. -/
  | cancel (request : Nat)
  | timerFires
  /-- The run takes its first step. -/
  | runStarts
  | runEnds (ending : RunEnd ρ)
  /-- The run is aborted. -/
  | abort
deriving DecidableEq, Repr

/-- What an event sets off. -/
inductive Effect where
  /-- The request has been settled. -/
  | settled (request : Nat)
  /-- A run for the request has been created. -/
  | created (request : Nat)
deriving DecidableEq, Repr

namespace Scheduler

variable {ρ : Type}

/-- A scheduler that has seen no request. -/
def start : Scheduler ρ := ⟨[], none, false, none⟩

/-- The future of a request. -/
def future? (scheduler : Scheduler ρ) (request : Nat) : Option (Future ρ) :=
  scheduler.requests[request]?.map (·.future)

/-- Whether a request is there and unsettled. -/
def isOpen (scheduler : Scheduler ρ) (request : Nat) : Bool :=
  match scheduler.future? request with
  | some future => !future.isSettled
  | none => false

/-- Settle a request, unless it is settled already. -/
def settle (scheduler : Scheduler ρ) (request : Nat) (outcome : Future ρ) :
    Scheduler ρ × List Effect :=
  if scheduler.isOpen request then
    ({ scheduler with
        requests := scheduler.requests.modify request fun entry =>
          { entry with future := entry.future.settle outcome } },
      [.settled request])
  else (scheduler, [])

/-- Drop the pending request and its timer. -/
def supersede (scheduler : Scheduler ρ) : Scheduler ρ × List Effect :=
  let (scheduler, effects) := match scheduler.pending with
    | some request => scheduler.settle request .superseded
    | none => (scheduler, [])
  ({ scheduler with pending := none, timer := false }, effects)

/-- Take the pending request and create its run. A request that was settled while it waited needs
none. -/
def startNext (scheduler : Scheduler ρ) : Scheduler ρ × List Effect :=
  match scheduler.pending with
  | none => (scheduler, [])
  | some request =>
    let taken := { scheduler with pending := none }
    if scheduler.isOpen request then
      ({ taken with active := some ⟨request, .created⟩ }, [.created request])
    else (taken, [])

/-- The debounce timer is over. The pending request is handed over, unless it has to wait for the
run in flight. -/
def onTimer (scheduler : Scheduler ρ) : Scheduler ρ × List Effect :=
  let fired := { scheduler with timer := false }
  if scheduler.active.isSome then (fired, []) else fired.startNext

/-- Free the place of the run. A pending request whose timer has fired already was waiting for
it. -/
def freePlace (scheduler : Scheduler ρ) : Scheduler ρ × List Effect :=
  let freed := { scheduler with active := none }
  if freed.timer then (freed, []) else freed.startNext

/-- Settle the request of a run and free its place. -/
def endRun (scheduler : Scheduler ρ) (request : Nat) (ending : RunEnd ρ) :
    Scheduler ρ × List Effect :=
  let (settled, effects) := scheduler.settle request ending.outcome
  let (freed, others) := settled.freePlace
  (freed, effects ++ others)

/-- The state after an event, and its effects. Events that cannot happen in a state change
nothing. -/
def step (scheduler : Scheduler ρ) (event : Event ρ) : Scheduler ρ × List Effect :=
  match event with
  | .request contents =>
    let (dropped, effects) := scheduler.supersede
    ({ dropped with
        requests := dropped.requests ++ [⟨contents, .unsettled⟩]
        pending := some dropped.requests.length
        timer := true }, effects)
  | .close => scheduler.supersede
  | .cancel request => scheduler.settle request .cancelled
  | .timerFires =>
    if scheduler.timer then scheduler.onTimer else (scheduler, [])
  | .runStarts =>
    match scheduler.active with
    | some ⟨request, .created⟩ => ({ scheduler with active := some ⟨request, .running⟩ }, [])
    | _ => (scheduler, [])
  | .runEnds ending =>
    match scheduler.active with
    | some ⟨request, .running⟩ => scheduler.endRun request ending
    | _ => (scheduler, [])
  | .abort =>
    match scheduler.active with
    | some ⟨request, .created⟩ => ({ scheduler with active := some ⟨request, .lost⟩ }, [])
    | some ⟨request, .running⟩ => scheduler.endRun request .cancelled
    | _ => (scheduler, [])

/-- The state after some events, and all their effects in order. -/
def run (scheduler : Scheduler ρ) : List (Event ρ) -> Scheduler ρ × List Effect
  | [] => (scheduler, [])
  | event :: events =>
    let (next, effects) := scheduler.step event
    let (final, others) := next.run events
    (final, effects ++ others)

/-- Whether a request is pending. -/
def hasPending (scheduler : Scheduler ρ) : Bool :=
  scheduler.pending.isSome

/-- Whether a run is in flight. -/
def isRunning (scheduler : Scheduler ρ) : Bool :=
  scheduler.active.isSome

end Scheduler

end LintClient.Schedule
