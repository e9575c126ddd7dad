import LintClient.Proofs.Schedule.Operations
import Mathlib.Data.List.Induction

/-!
# A scheduler among its timers and runs

The scheduler keeps one place for a timer and one for a run. A workshop keeps the things themselves:
every armed timer of the event loop and every run that was ever created, each of which goes its own
way. Timers fire and runs end one by one, whatever the scheduler holds in its places, and what the
scheduler then does is what its operations do. That the places tell the truth about the workshop is
what `Orderly` says, and it is not built in.
-/

namespace LintClient.Schedule

/-- How far a task has come. -/
inductive TaskPhase (ρ : Type) where
  /-- The task has not taken its first step. -/
  | created
  /-- The runner has been called and has not ended. -/
  | running
  | ended (ending : RunEnd ρ)
deriving DecidableEq, Repr

/-- A run as a task of its own, with the request for which it was created and the text that it hands
to the runner. -/
structure Task (ρ : Type) where
  request : Nat
  contents : String
  phase : TaskPhase ρ
deriving DecidableEq, Repr

/-- The run that a task is as long as it is not over. -/
def Task.run? {ρ : Type} (task : Task ρ) : Option ActiveRun :=
  match task.phase with
  | .created => some ⟨task.request, .created⟩
  | .running => some ⟨task.request, .running⟩
  | .ended _ => none

/-- The run of a task is for the request of the task. -/
theorem Task.request_of_run? {ρ : Type} {task : Task ρ} {run : ActiveRun}
    (inFlight : task.run? = some run) : run.request = task.request := by
  unfold Task.run? at inFlight
  split at inFlight <;> cases inFlight <;> rfl

/-- What a task has handed to the runner: its text, with the number of its request. -/
def Task.call? {ρ : Type} (task : Task ρ) : Option (Nat × String) :=
  match task.phase with
  | .created => none
  | _ => some (task.request, task.contents)

/-- A task has called the runner with its text once it has begun. -/
theorem Task.call?_eq_some {ρ : Type} {task : Task ρ} {call : Nat × String} :
    task.call? = some call ↔ (task.request, task.contents) = call ∧ task.phase ≠ .created := by
  unfold Task.call?
  split <;> simp_all

/-- What a task makes of its request, if nobody else does. -/
def TaskPhase.outcome {ρ : Type} : TaskPhase ρ -> Future ρ
  | .ended ending => ending.outcome
  | _ => .unsettled

/-- A scheduler with the timers and the runs around it. -/
structure Workshop (ρ : Type) where
  scheduler : Scheduler ρ
  /-- The armed timers, in the order in which they were armed, with their requests. -/
  timers : List Nat
  /-- The runs in the order of their creation. -/
  tasks : List (Task ρ)
  /-- The calls of the runner in their order: the text and the request for which it was handed
  over. -/
  calls : List (Nat × String)
  /-- Everything that has been set off so far. -/
  effects : List Effect
deriving DecidableEq, Repr

/-- What happens in a workshop. Timers and tasks are known by their places. -/
inductive Move (ρ : Type) where
  | request (contents : String)
  | close
  | cancel (request : Nat)
  | timerFires (timer : Nat)
  | firstStep (task : Nat)
  | runEnds (task : Nat) (ending : RunEnd ρ)
deriving DecidableEq, Repr

namespace Workshop

variable {ρ : Type}

/-- A workshop in which nothing has happened. -/
def start : Workshop ρ := ⟨.start, [], [], [], []⟩

/-- The tasks that effects create. -/
def tasksOf (scheduler : Scheduler ρ) (effects : List Effect) : List (Task ρ) :=
  effects.filterMap fun
    | .created request => some ⟨request, (scheduler.contents? request).getD "", .created⟩
    | .settled _ => none

/-- Take up what an operation of the scheduler has come to. -/
def take (workshop : Workshop ρ) (outcome : Scheduler ρ × List Effect) : Workshop ρ :=
  { workshop with
    scheduler := outcome.1
    tasks := workshop.tasks ++ tasksOf outcome.1 outcome.2
    effects := workshop.effects ++ outcome.2 }

/-- The armed timers without the one that the scheduler stops: the one that was armed last, if it
holds any. -/
def timersLeft (workshop : Workshop ρ) : List Nat :=
  if workshop.scheduler.timer then workshop.timers.dropLast else workshop.timers

/-- The workshop after a move. What cannot happen changes nothing. -/
def perform (workshop : Workshop ρ) : Move ρ -> Workshop ρ
  | .request contents =>
    { workshop.take (workshop.scheduler.step (.request contents)) with
      timers := workshop.timersLeft ++ [workshop.scheduler.requests.length] }
  | .close =>
    { workshop.take (workshop.scheduler.step .close) with timers := workshop.timersLeft }
  | .cancel request => workshop.take (workshop.scheduler.step (.cancel request))
  | .timerFires timer =>
    if timer < workshop.timers.length then
      { workshop.take workshop.scheduler.onTimer with timers := workshop.timers.eraseIdx timer }
    else workshop
  | .firstStep task =>
    match workshop.tasks[task]? with
    | some ⟨request, contents, .created⟩ =>
      { workshop.take (workshop.scheduler.step .runStarts) with
        tasks := workshop.tasks.set task ⟨request, contents, .running⟩
        calls := workshop.calls ++ [(request, contents)] }
    | _ => workshop
  | .runEnds task ending =>
    match workshop.tasks[task]? with
    | some ⟨request, contents, .running⟩ =>
      { workshop with tasks := workshop.tasks.set task ⟨request, contents, .ended ending⟩ }.take
        (workshop.scheduler.endRun request ending)
    | _ => workshop

/-- The workshop after some moves. -/
def after (moves : List (Move ρ)) : Workshop ρ :=
  moves.foldl perform start

/-! ## What moves come to -/

/-- The last move is made in what the earlier ones have come to. -/
theorem after_concat (moves : List (Move ρ)) (move : Move ρ) :
    after (moves ++ [move]) = (after moves).perform move := by
  simp [after]

section Kept

variable (kept : Workshop ρ → Prop)
  (step : ∀ workshop, kept workshop → ∀ move, kept (workshop.perform move))

include step

/-- What every move keeps, every continuation keeps. -/
theorem kept_append {moves : List (Move ρ)} (holds : kept (after moves)) (more : List (Move ρ)) :
    kept (after (moves ++ more)) := by
  induction more using List.reverseRecOn with
  | nil => rwa [List.append_nil]
  | append_singleton more move inductionHypothesis =>
      rw [← List.append_assoc, after_concat]
      exact step _ inductionHypothesis move

/-- What holds at the start and is kept by every move holds in every workshop that can be
reached. -/
theorem kept_after (initial : kept start) (moves : List (Move ρ)) : kept (after moves) := by
  have atStart : kept (after []) := initial
  exact kept_append kept step atStart moves

end Kept

/-- Without effects there are no new tasks. -/
@[simp] theorem tasksOf_nil (scheduler : Scheduler ρ) : tasksOf scheduler [] = [] := rfl

/-- The tasks of some effects and others are those of each, in order. -/
theorem tasksOf_append (scheduler : Scheduler ρ) (effects others : List Effect) :
    tasksOf scheduler (effects ++ others) =
      tasksOf scheduler effects ++ tasksOf scheduler others :=
  List.filterMap_append

/-- A run is created with the text of its request. -/
theorem tasksOf_created {scheduler : Scheduler ρ} {request : Nat} {contents : String}
    (text : scheduler.contents? request = some contents) :
    tasksOf scheduler [.created request] = [⟨request, contents, .created⟩] := by
  simp [tasksOf, text]

/-- Settling a request creates no task. -/
@[simp] theorem tasksOf_settle (scheduler settled : Scheduler ρ) (request : Nat)
    (outcome : Future ρ) : tasksOf scheduler (settled.settle request outcome).2 = [] := by
  by_cases opened : settled.isOpen request = true
  · rw [Scheduler.settle_effects _ _ _ opened]
    rfl
  · rw [Scheduler.settle_of_not_isOpen _ _ _ opened]
    rfl

/-- Superseding creates no task. -/
@[simp] theorem tasksOf_supersede (scheduler settled : Scheduler ρ) :
    tasksOf scheduler settled.supersede.2 = [] := by
  cases pending : settled.pending with
  | none => rw [Scheduler.supersede_of_idle _ pending, tasksOf_nil]
  | some request => rw [Scheduler.supersede_of_pending _ pending, tasksOf_settle]

/-- A task that has been created takes its first step and calls the runner. -/
theorem perform_firstStep {workshop : Workshop ρ} {index request : Nat} {contents : String}
    (found : workshop.tasks[index]? = some ⟨request, contents, .created⟩) :
    workshop.perform (.firstStep index) =
      { workshop.take (workshop.scheduler.step .runStarts) with
        tasks := workshop.tasks.set index ⟨request, contents, .running⟩
        calls := workshop.calls ++ [(request, contents)] } := by
  simp [perform, found]

/-- No other task takes a first step. -/
theorem firstStep_cases (workshop : Workshop ρ) (index : Nat) :
    (∃ request contents, workshop.tasks[index]? = some ⟨request, contents, .created⟩) ∨
      workshop.perform (.firstStep index) = workshop := by
  simp only [perform]
  split
  next request contents found => exact .inl ⟨request, contents, found⟩
  next => exact .inr rfl

/-- The workshop when a run is over and has freed its place, before another one is created. -/
def finished (workshop : Workshop ρ) (index request : Nat) (contents : String)
    (ending : RunEnd ρ) : Workshop ρ :=
  { workshop with
    scheduler := { (workshop.scheduler.settle request ending.outcome).1 with active := none }
    tasks := workshop.tasks.set index ⟨request, contents, .ended ending⟩
    effects := workshop.effects ++ (workshop.scheduler.settle request ending.outcome).2 }

/-- A task that is running ends, and makes way for the pending request if that waits for nothing
else. -/
theorem perform_runEnds {workshop : Workshop ρ} {index request : Nat} {contents : String}
    (found : workshop.tasks[index]? = some ⟨request, contents, .running⟩) (ending : RunEnd ρ) :
    workshop.perform (.runEnds index ending) =
      if workshop.scheduler.timer then workshop.finished index request contents ending
      else (workshop.finished index request contents ending).take
        (workshop.finished index request contents ending).scheduler.startNext := by
  simp only [perform, found, Scheduler.endRun, Scheduler.freePlace, Scheduler.settle_timer]
  split
  next => simp [take, finished]
  next => simp [take, finished, tasksOf_append]

/-- No other task ends. -/
theorem runEnds_cases (workshop : Workshop ρ) (index : Nat) (ending : RunEnd ρ) :
    (∃ request contents, workshop.tasks[index]? = some ⟨request, contents, .running⟩) ∨
      workshop.perform (.runEnds index ending) = workshop := by
  simp only [perform]
  split
  next request contents found => exact .inl ⟨request, contents, found⟩
  next => exact .inr rfl

end Workshop

end LintClient.Schedule
