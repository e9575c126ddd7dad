import LintClient.Proofs.Schedule.Operations

/-!
# Runs that make way

A run that ends settles its request and makes way for the request that waits for it
(`Scheduler.endRun_active`). As long as every run that is created comes to its end, a new request
gets its turn (`Scheduler.serves_of_not_lost`).
-/

namespace LintClient.Schedule

variable {ρ : Type}

/-- How the run that the runner is at work for ends at an event. -/
def Event.ending? : Event ρ → Option (RunEnd ρ)
  | .runEnds ending => some ending
  | .abort => some .cancelled
  | _ => none

namespace Scheduler

/-- The request that waits for the run in flight alone, its timer having fired. -/
def waiting? (scheduler : Scheduler ρ) : Option Nat :=
  if scheduler.timer then none else scheduler.pending.filter fun request => scheduler.isOpen request

/-- A new request is served: once its timer has fired, and the run in flight and its own have ended,
it holds what the run has come to. -/
def Serves (scheduler : Scheduler ρ) : Prop :=
  ∀ (contents : String) (ending : RunEnd ρ),
    (scheduler.run [.request contents, .timerFires, .runStarts, .runEnds ending, .runStarts,
      .runEnds ending]).1.future? scheduler.requests.length = some ending.outcome

/-! ## Requests that arrive -/

/-- A new request is pending and unsettled, its timer is armed, and the run in flight goes on. -/
theorem step_request (scheduler : Scheduler ρ) (contents : String) :
    let next := (scheduler.step (.request contents)).1
    next.pending = some scheduler.requests.length ∧ next.timer = true ∧
      next.active = scheduler.active ∧ next.isOpen scheduler.requests.length = true := by
  have length := scheduler.supersede_length
  refine ⟨congrArg some length, rfl, scheduler.supersede_active, isOpen_iff.mpr ?_⟩
  have admitted := future?_admit scheduler.supersede.1 ⟨contents, .unsettled⟩
    (some scheduler.supersede.1.requests.length) true scheduler.requests.length
  rw [length, if_pos rfl] at admitted
  exact admitted

/-- A timer that fires hands the pending request over if no run is in flight. -/
theorem step_timerFires_of_free {scheduler : Scheduler ρ} {request : Nat}
    (pending : scheduler.pending = some request) (armed : scheduler.timer = true)
    (opened : scheduler.isOpen request = true) (free : scheduler.active = none) :
    (scheduler.step .timerFires).1 =
      { scheduler with timer := false, pending := none, active := some ⟨request, .created⟩ } := by
  obtain ⟨requests, held, timer, active⟩ := scheduler
  cases pending
  cases armed
  cases free
  have stillOpen : (⟨requests, some request, false, none⟩ : Scheduler ρ).isOpen request = true :=
    opened
  simp only [step, if_true, onTimer, Option.isSome_none, Bool.false_eq_true, if_false, startNext,
    stillOpen]

/-- A timer that fires during a run leaves the pending request waiting. -/
theorem step_timerFires_of_busy {scheduler : Scheduler ρ} (armed : scheduler.timer = true)
    (busy : scheduler.active.isSome = true) :
    (scheduler.step .timerFires).1 = { scheduler with timer := false } := by
  simp [step, armed, onTimer, busy]

/-! ## Runs that end -/

section EndRun

variable (scheduler : Scheduler ρ) (request : Nat) (ending : RunEnd ρ)

/-- The scheduler when a run is over and has freed its place, before another one is created. -/
def released : Scheduler ρ :=
  { (scheduler.settle request ending.outcome).1 with active := none }

/-- A run that frees its place leaves the pending request as it is. -/
theorem released_pending : (scheduler.released request ending).pending = scheduler.pending :=
  settle_pending _ _ _

/-- A run that ends frees its place, and the next one is created unless its timer still runs. -/
theorem endRun_eq : (scheduler.endRun request ending).1 =
    if scheduler.timer then scheduler.released request ending
    else (scheduler.released request ending).startNext.1 := by
  simp only [endRun, freePlace, settle_timer, released]
  split <;> rfl

/-- The end of a run settles its request and no other. -/
theorem endRun_future? (other : Nat) : (scheduler.endRun request ending).1.future? other =
    (scheduler.settle request ending.outcome).1.future? other := by
  refine future?_congr ?_ other
  rw [endRun_eq]
  split
  · rfl
  · exact startNext_requests _

/-- A run that ends when no timer is armed leaves no request pending. -/
theorem endRun_pending (unarmed : scheduler.timer = false) :
    (scheduler.endRun request ending).1.pending = none := by
  rw [endRun_eq, if_neg (by simp [unarmed])]
  exact startNext_pending _

/-- The place of a run that ends goes to the request that waits for it. -/
theorem endRun_active (notPending : scheduler.pending ≠ some request) :
    (scheduler.endRun request ending).1.active =
      scheduler.waiting?.map fun waiting => ⟨waiting, .created⟩ := by
  rw [endRun_eq, waiting?]
  split
  · rfl
  · rcases startNext_cases (scheduler.released request ending) with
      ⟨idle, same⟩ | ⟨waiting, pending, handed⟩
    · rw [released_pending] at idle
      rw [same, idle]
      rfl
    · rw [released_pending] at pending
      have different : waiting ≠ request := by
        rintro rfl
        exact notPending pending
      have stays : (scheduler.released request ending).isOpen waiting = scheduler.isOpen waiting :=
        settle_isOpen_of_ne _ _ _ different
      rw [stays] at handed
      rw [pending]
      rcases handed with ⟨opened, started⟩ | ⟨closed, dropped⟩
      · rw [started, Option.filter_some, if_pos opened]
        rfl
      · rw [dropped, Option.filter_some, if_neg (by simp [closed])]
        rfl

/-- What a run does at its end does not depend on how far the scheduler takes it to be. -/
theorem endRun_congr (active : Option ActiveRun) :
    ({ scheduler with active := active } : Scheduler ρ).endRun request ending =
      scheduler.endRun request ending := by
  have same : ({ scheduler with active := active } : Scheduler ρ).isOpen request =
      scheduler.isOpen request := rfl
  simp only [endRun, settle, same]
  split <;> rfl

end EndRun

/-- A run that was not aborted takes its first step, if it has not, and ends. -/
theorem run_to_end {scheduler : Scheduler ρ} {request : Nat} {phase : RunPhase}
    (active : scheduler.active = some ⟨request, phase⟩) (notLost : phase ≠ .lost)
    (ending : RunEnd ρ) : (scheduler.run [.runStarts, .runEnds ending]).1 =
      (scheduler.endRun request ending).1 := by
  cases phase with
  | created =>
      simp only [run, step, active]
      rw [endRun_congr]
  | running => simp [run, step, active]
  | lost => exact absurd rfl notLost

/-- Without a run in flight no run starts or ends. -/
theorem run_to_end_of_free {scheduler : Scheduler ρ} (free : scheduler.active = none)
    (ending : RunEnd ρ) : (scheduler.run [.runStarts, .runEnds ending]).1 = scheduler := by
  simp [run, step, free]

/-- A run that has been created for an unsettled request ends, and nothing is left to do. -/
theorem run_to_end_alone {scheduler : Scheduler ρ} {request : Nat}
    (active : scheduler.active = some ⟨request, .created⟩) (idle : scheduler.pending = none)
    (opened : scheduler.isOpen request = true) (ending : RunEnd ρ) :
    (scheduler.run [.runStarts, .runEnds ending]).1.future? request = some ending.outcome ∧
      (scheduler.run [.runStarts, .runEnds ending]).1.active = none := by
  rw [run_to_end active (by simp)]
  refine ⟨?_, ?_⟩
  · rw [endRun_future?, settle_future? _ _ _ opened, if_pos rfl]
  · rw [endRun_active _ _ _ (by simp [idle]), waiting?, idle]
    split <;> rfl

/-- As long as the place for runs is not kept, new requests are served. -/
theorem serves_of_not_lost {scheduler : Scheduler ρ}
    (notLost : ∀ request, scheduler.active ≠ some ⟨request, .lost⟩)
    (known : ∀ run, scheduler.active = some run → run.request < scheduler.requests.length) :
    scheduler.Serves := by
  intro contents ending
  obtain ⟨pending, armed, active, opened⟩ := scheduler.step_request contents
  generalize sameState : (scheduler.step (.request contents)).1 = asked
    at pending armed active opened
  have phases : (scheduler.run [.request contents, .timerFires, .runStarts, .runEnds ending,
      .runStarts, .runEnds ending]).1 = (((asked.step .timerFires).1.run
        [.runStarts, .runEnds ending]).1.run [.runStarts, .runEnds ending]).1 := by
    rw [← sameState]
    rfl
  rw [phases]
  cases held : scheduler.active with
  | none =>
      rw [step_timerFires_of_free pending armed opened (active.trans held)]
      obtain ⟨answered, free⟩ := @run_to_end_alone ρ
        { asked with
          timer := false, pending := none, active := some ⟨scheduler.requests.length, .created⟩ }
        _ rfl rfl opened ending
      rw [run_to_end_of_free free]
      exact answered
  | some run =>
      obtain ⟨request, phase⟩ := run
      have different : scheduler.requests.length ≠ request :=
        (Nat.ne_of_lt (known _ held)).symm
      have notLost : phase ≠ .lost := by
        rintro rfl
        exact notLost request held
      have running : asked.active = some ⟨request, phase⟩ := active.trans held
      rw [step_timerFires_of_busy armed (by simp [running]),
        @run_to_end ρ { asked with timer := false } _ _ running notLost]
      have waits : ({ asked with timer := false } : Scheduler ρ).waiting? =
          some scheduler.requests.length := by
        rw [waiting?, if_neg Bool.false_ne_true]
        exact Option.filter_eq_some_iff.mpr ⟨pending, opened⟩
      have notPending : ({ asked with timer := false } : Scheduler ρ).pending ≠ some request := by
        simpa [pending] using different
      refine (run_to_end_alone ?_ (endRun_pending _ _ _ rfl) ?_ ending).1
      · rw [endRun_active _ _ _ notPending, waits]
        rfl
      · rw [isOpen_iff, endRun_future?, settle_future?_of_ne _ _ _ different]
        exact isOpen_iff.mp opened

end Scheduler

end LintClient.Schedule
