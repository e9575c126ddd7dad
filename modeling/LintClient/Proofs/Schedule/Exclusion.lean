import LintClient.Proofs.Schedule.Order

/-!
# One run, one waiting request, one timer

A run can be created from two places, when a timer fires and when another run ends, and each looks
at different flags of the scheduler. In every workshop that can be reached the flags agree with what
is there, so that whatever is held is held once.
-/

namespace LintClient.Schedule.Workshop

variable {ρ : Type}

/-- The runs that have been handed over and have not ended. -/
def inFlight (workshop : Workshop ρ) : List ActiveRun :=
  workshop.tasks.filterMap Task.run?

/-- A request waits for its turn when it is unsettled and no run has been created for it. -/
def Waits (workshop : Workshop ρ) (request : Nat) : Prop :=
  workshop.scheduler.isOpen request = true ∧ ∀ task ∈ workshop.tasks, task.request ≠ request

/-- The run that the scheduler holds is there. -/
theorem Orderly.mem_inFlight {workshop : Workshop ρ} (orderly : workshop.Orderly)
    {run : ActiveRun} : run ∈ workshop.inFlight ↔ workshop.scheduler.active = some run := by
  rw [inFlight, orderly.runsHeld, Option.mem_toList]

/-- The run that the scheduler holds is a task. -/
theorem Orderly.exists_task {workshop : Workshop ρ} (orderly : workshop.Orderly)
    {run : ActiveRun} (active : workshop.scheduler.active = some run) :
    ∃ task ∈ workshop.tasks, task.run? = some run :=
  List.mem_filterMap.mp (orderly.mem_inFlight.mpr active)

/-- A request that waits is the pending one. -/
theorem Orderly.pending_of_waits {workshop : Workshop ρ} (orderly : workshop.Orderly)
    {request : Nat} (waits : workshop.Waits request) :
    workshop.scheduler.pending = some request := by
  rcases orderly.openHeld request waits.1 with pending | ⟨run, active, own⟩
  · exact pending
  · obtain ⟨task, member, running⟩ := orderly.exists_task active
    exact absurd ((Task.request_of_run? running).symm.trans own) (waits.2 task member)

/-- The pending request has no task. -/
theorem Orderly.untried {workshop : Workshop ρ} (orderly : workshop.Orderly) {request : Nat}
    (pending : workshop.scheduler.pending = some request) {task : Task ρ}
    (member : task ∈ workshop.tasks) : task.request ≠ request :=
  Nat.ne_of_lt (orderly.pendingUntried request pending task member)

/-- There is at most one timer. -/
theorem Orderly.timers_length {workshop : Workshop ρ} (orderly : workshop.Orderly) :
    workshop.timers.length ≤ 1 := by
  rw [orderly.timersHeld]
  split
  · cases workshop.scheduler.pending <;> simp
  · exact Nat.zero_le 1

/-- The scheduler holds a timer as long as one is armed. -/
theorem Orderly.timer_iff {workshop : Workshop ρ} (orderly : workshop.Orderly) :
    workshop.scheduler.timer = true ↔ workshop.timers ≠ [] := by
  rw [orderly.timersHeld]
  constructor
  · intro held
    have waits := orderly.timerWaits held
    rw [if_pos held]
    intro nothing
    rw [Option.toList_eq_nil_iff] at nothing
    rw [nothing] at waits
    cases waits
  · intro armed
    by_contra stopped
    exact armed (if_neg stopped)

/-- Runs never overlap, whatever the order of requests, closings, cancellations, timers, first steps
and ends of runs. At most one run is in flight, and the scheduler holds it exactly as long. At most
one request waits; it is the pending one, and that is never the active one. At most one timer is
armed, and the scheduler holds it exactly as long. -/
theorem runs_never_overlap (moves : List (Move ρ)) :
    ((after moves).inFlight.length ≤ 1 ∧
      ((after moves).scheduler.active.isSome = true ↔ (after moves).inFlight ≠ []) ∧
      ∀ run, (after moves).scheduler.active = some run ↔ run ∈ (after moves).inFlight) ∧
    ((∀ request, (after moves).Waits request → (after moves).scheduler.pending = some request) ∧
      ∀ request, (after moves).scheduler.pending = some request →
        (∀ task ∈ (after moves).tasks, task.request ≠ request) ∧
          ∀ run, (after moves).scheduler.active = some run → run.request ≠ request) ∧
    (after moves).timers.length ≤ 1 ∧
      ((after moves).scheduler.timer = true ↔ (after moves).timers ≠ []) := by
  have orderly := orderly_after moves
  have held : (after moves).inFlight = (after moves).scheduler.active.toList := orderly.runsHeld
  refine ⟨⟨?single, ?flag, ?same⟩, ⟨?waiting, ?apart⟩, orderly.timers_length, orderly.timer_iff⟩
  case single =>
    rw [held]
    cases (after moves).scheduler.active <;> simp
  case flag =>
    rw [held]
    cases (after moves).scheduler.active <;> simp
  case same => exact fun run => orderly.mem_inFlight.symm
  case waiting => exact fun request waits => orderly.pending_of_waits waits
  case apart =>
    intro request pending
    refine ⟨fun task member => orderly.untried pending member, ?_⟩
    intro run active
    obtain ⟨task, member, running⟩ := orderly.exists_task active
    rw [Task.request_of_run? running]
    exact orderly.untried pending member

end LintClient.Schedule.Workshop
