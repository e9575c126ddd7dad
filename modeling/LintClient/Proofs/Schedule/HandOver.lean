import LintClient.Proofs.Schedule.Cause
import LintClient.Proofs.Schedule.Exclusion

/-!
# How requests are handed over

A request is handed over by the move that creates a run for it, and the run calls the runner in its
first step. `CalmMove` says what a move can do to the pending request as long as nothing drops it.
-/

namespace LintClient.Schedule

variable {ρ : Type}

/-- Whether a move drops the pending request: a newer request, or the end of the scheduler. -/
def Move.drops : Move ρ → Bool
  | .request _ | .close => true
  | _ => false

namespace Workshop

/-- No run has been created for the request. -/
def Untried (workshop : Workshop ρ) (request : Nat) : Prop :=
  ∀ task ∈ workshop.tasks, task.request ≠ request

/-- The move creates a run for the request. -/
def HandsOver (workshop : Workshop ρ) (move : Move ρ) (request : Nat) : Prop :=
  workshop.Untried request ∧ ¬ (workshop.perform move).Untried request

/-- The move calls the runner for the request. -/
def CallsRunner (workshop : Workshop ρ) (move : Move ρ) (request : Nat) : Prop :=
  (∀ call ∈ workshop.calls, call.1 ≠ request) ∧
    ∃ call ∈ (workshop.perform move).calls, call.1 = request

/-- What a move that drops nothing does to the pending request. -/
inductive CalmMove (workshop : Workshop ρ) (request : Nat) (move : Move ρ) : Prop where
  /-- It leaves the request and the run in flight. -/
  | leaves
      (pending : (workshop.perform move).scheduler.pending = some request)
      (timer : (workshop.perform move).scheduler.timer = workshop.scheduler.timer)
      (unarmed : ∀ timer, move = .timerFires timer → workshop.timers.length ≤ timer)
      (active : ∀ run, workshop.scheduler.active = some run → workshop.scheduler.timer = false →
        ∃ phase, (workshop.perform move).scheduler.active = some ⟨run.request, phase⟩)
  /-- The timer fires while a run is in flight. -/
  | comesToWait (run : ActiveRun)
      (fires : move = .timerFires 0)
      (armed : workshop.timers = [request])
      (before : workshop.scheduler.active = some run)
      (pending : (workshop.perform move).scheduler.pending = some request)
      (timer : (workshop.perform move).scheduler.timer = false)
      (active : (workshop.perform move).scheduler.active = some run)
  /-- The timer fires while no run is in flight. -/
  | startsWhenDue
      (fires : move = .timerFires 0)
      (armed : workshop.timers = [request])
      (idle : workshop.scheduler.active = none)
      (taken : (workshop.perform move).scheduler.pending = none)
      (handed : workshop.scheduler.isOpen request = true → workshop.HandsOver move request)
  /-- The run ends for which the request has been waiting. -/
  | startsAfterRun (index : Nat) (ending : RunEnd ρ) (own : Nat) (contents : String)
      (ends : move = .runEnds index ending)
      (found : workshop.tasks[index]? = some ⟨own, contents, .running⟩)
      (waited : workshop.scheduler.timer = false)
      (taken : (workshop.perform move).scheduler.pending = none)
      (handed : workshop.scheduler.isOpen request = true → workshop.HandsOver move request)

/-- A request has been tried once there is a task for it. -/
theorem not_untried {workshop : Workshop ρ} {request : Nat} :
    ¬ workshop.Untried request ↔ ∃ task ∈ workshop.tasks, task.request = request := by
  simp [Untried]

instance (workshop : Workshop ρ) (request : Nat) : Decidable (workshop.Untried request) :=
  inferInstanceAs (Decidable (∀ task ∈ workshop.tasks, _))

instance (workshop : Workshop ρ) (request : Nat) : Decidable (workshop.Waits request) :=
  inferInstanceAs (Decidable (_ ∧ ∀ task ∈ workshop.tasks, _))

/-! ## The pending request -/

/-- Handing over an open request creates its task. -/
theorem not_untried_startNext {workshop : Workshop ρ} {request : Nat}
    (pending : workshop.scheduler.pending = some request)
    (opened : workshop.scheduler.isOpen request = true) :
    ¬ (workshop.take workshop.scheduler.startNext).Untried request := by
  rw [not_untried]
  rcases Scheduler.startNext_cases workshop.scheduler with
    ⟨idle, -⟩ | ⟨other, chosen, ⟨-, started⟩ | ⟨closed, -⟩⟩
  · cases idle.symm.trans pending
  · cases chosen.symm.trans pending
    rw [started]
    exact ⟨_, List.mem_append_right _ List.mem_cons_self, rfl⟩
  · cases chosen.symm.trans pending
    cases closed.symm.trans opened

section Calm

variable {workshop : Workshop ρ} (orderly : workshop.Orderly) {request : Nat}
  (pending : workshop.scheduler.pending = some request)

include orderly pending

/-- A timer that fires is the one of the pending request. -/
theorem Orderly.calmMove_timerFires {timer : Nat} (armed : timer < workshop.timers.length) :
    workshop.CalmMove request (.timerFires timer) := by
  obtain ⟨rfl, -, other, known, timers⟩ := orderly.timers_of_lt armed
  cases known.symm.trans pending
  cases active : workshop.scheduler.active with
  | some run =>
      have waiting : (workshop.perform (.timerFires 0)).scheduler =
          { workshop.scheduler with timer := false } := by
        simp [Workshop.perform, armed, take, Scheduler.onTimer, active]
      exact .comesToWait run rfl timers active (by rw [waiting, pending]) (by rw [waiting])
        (by rw [waiting, active])
  | none =>
      set fired : Workshop ρ :=
        { workshop with scheduler := { workshop.scheduler with timer := false } } with firedEq
      have handed : workshop.perform (.timerFires 0) =
          { fired.take fired.scheduler.startNext with timers := [] } := by
        simp [Workshop.perform, Scheduler.onTimer, active, timers, take, firedEq]
      refine .startsWhenDue rfl timers active ?_ ?_
      · rw [handed]
        exact Scheduler.startNext_pending _
      · intro opened
        refine ⟨fun task => orderly.untried pending, ?_⟩
        rw [handed]
        have started : ¬ (fired.take fired.scheduler.startNext).Untried request :=
          not_untried_startNext pending opened
        exact started

/-- A run that ends makes way for the pending request if that waits for nothing else. -/
theorem Orderly.calmMove_runEnds {index own : Nat} {contents : String} (ending : RunEnd ρ)
    (found : workshop.tasks[index]? = some ⟨own, contents, .running⟩) :
    workshop.CalmMove request (.runEnds index ending) := by
  set finished := workshop.finished index own contents ending
  have stillPending : finished.scheduler.pending = some request :=
    (Scheduler.settle_pending _ _ _).trans pending
  cases armed : workshop.scheduler.timer with
  | true =>
      have same := perform_runEnds found ending
      rw [if_pos armed] at same
      refine .leaves ?_ ?_ nofun ?_
      · rw [same]
        exact stillPending
      · rw [same]
        exact Scheduler.settle_timer _ _ _
      · intro run _ unarmed
        cases armed.symm.trans unarmed
  | false =>
      have handed : workshop.perform (.runEnds index ending) =
          finished.take finished.scheduler.startNext := by
        rw [perform_runEnds found, if_neg (by simp [armed])]
      refine .startsAfterRun index ending own contents rfl found armed ?_ ?_
      · rw [handed]
        exact Scheduler.startNext_pending _
      · intro opened
        have stillOpen : finished.scheduler.isOpen request = true := by
          have other := (orderly.untried pending (List.mem_of_getElem? found)).symm
          exact (Scheduler.settle_isOpen_of_ne _ _ _ other).trans opened
        refine ⟨fun task => orderly.untried pending, ?_⟩
        rw [handed]
        exact not_untried_startNext stillPending stillOpen

/-- A move that drops nothing leaves the pending request until its timer is over and no other run is
in flight, and then takes it. -/
theorem Orderly.calmMove {move : Move ρ} (calm : move.drops = false) :
    workshop.CalmMove request move := by
  -- moves that cannot happen leave the workshop as it is
  have unchanged (same : workshop.perform move = workshop)
      (unarmed : ∀ timer, move = .timerFires timer → workshop.timers.length ≤ timer) :
      workshop.CalmMove request move := by
    refine .leaves ?_ ?_ unarmed ?_
    · rw [same, pending]
    · rw [same]
    · intro run active _
      exact ⟨run.phase, by rw [same, active]⟩
  cases move with
  | request contents => cases calm
  | close => cases calm
  | cancel other =>
      refine .leaves ?_ ?_ ?_ ?_
      · exact (Scheduler.settle_pending _ _ _).trans pending
      · exact Scheduler.settle_timer _ _ _
      · intro timer fires
        cases fires
      · intro run active _
        exact ⟨run.phase, (Scheduler.settle_active _ _ _).trans active⟩
  | firstStep index =>
      rcases workshop.firstStep_cases index with ⟨own, contents, found⟩ | same
      · have active := orderly.active_of_run (List.mem_of_getElem? found) rfl
        have stepped : (workshop.perform (.firstStep index)).scheduler =
            { workshop.scheduler with active := some ⟨own, .running⟩ } := by
          rw [perform_firstStep found]
          simp [take, Scheduler.step, active]
        refine .leaves (by rw [stepped, pending]) (by rw [stepped]) ?_ ?_
        · intro timer fires
          cases fires
        · intro run held _
          cases active.symm.trans held
          exact ⟨.running, by rw [stepped]⟩
      · refine unchanged same ?_
        intro timer fires
        cases fires
  | timerFires timer =>
      by_cases armed : timer < workshop.timers.length
      · exact orderly.calmMove_timerFires pending armed
      · refine unchanged (by simp [Workshop.perform, armed]) ?_
        intro other chosen
        cases chosen
        exact Nat.le_of_not_lt armed
  | runEnds index ending =>
      rcases workshop.runEnds_cases index ending with ⟨own, contents, found⟩ | same
      · exact orderly.calmMove_runEnds pending ending found
      · refine unchanged same ?_
        intro timer fires
        cases fires

end Calm

/-- A move that drops nothing makes no request pending. -/
theorem Orderly.pending_of_calm {workshop : Workshop ρ} (orderly : workshop.Orderly)
    {move : Move ρ} (calm : move.drops = false) {request : Nat}
    (pending : (workshop.perform move).scheduler.pending = some request) :
    workshop.scheduler.pending = some request := by
  cases before : workshop.scheduler.pending with
  | some other =>
      cases orderly.calmMove before calm with
      | leaves stays => exact stays.symm.trans pending
      | comesToWait run _ _ _ stays => exact stays.symm.trans pending
      | startsWhenDue _ _ _ taken => cases taken.symm.trans pending
      | startsAfterRun _ _ _ _ _ _ _ taken => cases taken.symm.trans pending
  | none =>
      have stillNone : (workshop.perform move).scheduler.pending = none := by
        cases move with
        | request contents => cases calm
        | close => cases calm
        | cancel other => exact (Scheduler.settle_pending _ _ _).trans before
        | firstStep index =>
            rcases workshop.firstStep_cases index with ⟨own, contents, found⟩ | same
            · rw [perform_firstStep found]
              simp only [take, Scheduler.step]
              split <;> exact before
            · rw [same, before]
        | timerFires timer =>
            have unarmed : ¬ timer < workshop.timers.length := by
              intro armed
              obtain ⟨-, -, other, known, -⟩ := orderly.timers_of_lt armed
              cases known.symm.trans before
            simpa [Workshop.perform, unarmed] using before
        | runEnds index ending =>
            rcases workshop.runEnds_cases index ending with ⟨own, contents, found⟩ | same
            · rw [perform_runEnds found]
              split
              · exact (Scheduler.settle_pending _ _ _).trans before
              · exact Scheduler.startNext_pending _
            · rw [same, before]
      cases stillNone.symm.trans pending

/-- An open request without a task stays open as long as nothing drops or cancels it. -/
theorem Waits.isOpen_perform {workshop : Workshop ρ} {request : Nat}
    (waits : workshop.Waits request) {move : Move ρ} (calm : move.drops = false)
    (kept : move ≠ .cancel request) :
    (workshop.perform move).scheduler.isOpen request = true := by
  rw [Scheduler.isOpen_iff]
  rcases workshop.perform_future? move request with
    same | ⟨-, unsettled⟩ | ⟨-, future, -, settles⟩
  · exact same.trans (Scheduler.isOpen_iff.mp waits.1)
  · exact unsettled
  · cases settles with
    | newer contents => cases calm
    | closed => cases calm
    | calledOff => exact absurd rfl kept
    | ended ending found => exact absurd rfl (waits.2 _ (List.mem_of_getElem? found))

/-! ## Handing over and calling -/

/-- A request that is handed over is the pending one, and nothing is dropped by the move. -/
theorem Orderly.handsOver {workshop : Workshop ρ} (orderly : workshop.Orderly) {move : Move ρ}
    {request : Nat} (handed : workshop.HandsOver move request) :
    workshop.scheduler.pending = some request ∧ move.drops = false := by
  obtain ⟨untried, tried⟩ := handed
  obtain ⟨task, member, rfl⟩ := not_untried.mp tried
  have opened : workshop.scheduler.isOpen task.request = true := by
    rcases perform_task member with ⟨known, there, own⟩ | opened
    · exact absurd own (untried known there)
    · exact opened
  refine ⟨orderly.pending_of_waits ⟨opened, untried⟩, ?_⟩
  -- the moves that drop a request create no task
  cases move with
  | request contents =>
      simp only [Workshop.perform, take, Scheduler.step, tasksOf_supersede,
        List.append_nil] at member
      exact absurd rfl (untried task member)
  | close =>
      simp only [Workshop.perform, take, Scheduler.step, tasksOf_supersede,
        List.append_nil] at member
      exact absurd rfl (untried task member)
  | cancel other => rfl
  | timerFires timer => rfl
  | firstStep index => rfl
  | runEnds index ending => rfl

/-- A run is created for the pending request. -/
theorem pending_of_mem_startNext {scheduler next : Scheduler ρ} {task : Task ρ}
    (member : task ∈ tasksOf next scheduler.startNext.2) :
    scheduler.pending = some task.request := by
  rcases Scheduler.startNext_cases scheduler with
    ⟨-, same⟩ | ⟨request, pending, ⟨-, started⟩ | ⟨-, dropped⟩⟩
  · rw [same] at member
    cases member
  · rw [started] at member
    simp only [tasksOf, List.filterMap_cons, List.filterMap_nil, List.mem_singleton] at member
    rwa [member]
  · rw [dropped] at member
    cases member

/-- A run that has not taken its first step was there before, or is handed over by the move. -/
theorem Orderly.created_cases {workshop : Workshop ρ} (orderly : workshop.Orderly)
    {move : Move ρ} {task : Task ρ} (member : task ∈ (workshop.perform move).tasks)
    (created : task.phase = .created) :
    task ∈ workshop.tasks ∨ workshop.HandsOver move task.request := by
  by_cases untried : workshop.Untried task.request
  · exact .inr ⟨untried, not_untried.mpr ⟨task, member, rfl⟩⟩
  · obtain ⟨known, there, own⟩ := not_untried.mp untried
    have notPending : workshop.scheduler.pending ≠ some task.request := fun pending =>
      orderly.untried pending there own
    -- a task that goes on is not new
    have goesOn {index own : Nat} {contents : String} {phase changed : TaskPhase ρ}
        (found : workshop.tasks[index]? = some ⟨own, contents, phase⟩)
        (there : task ∈ workshop.tasks.set index ⟨own, contents, changed⟩)
        (begun : changed ≠ .created) : task ∈ workshop.tasks := by
      rcases List.mem_or_eq_of_mem_set there with known | rfl
      · exact known
      · exact absurd created begun
    left
    cases move with
    | request contents =>
        simpa only [Workshop.perform, take, Scheduler.step, tasksOf_supersede,
          List.append_nil] using member
    | close =>
        simpa only [Workshop.perform, take, Scheduler.step, tasksOf_supersede,
          List.append_nil] using member
    | cancel other =>
        simpa only [Workshop.perform, take, Scheduler.step, tasksOf_settle,
          List.append_nil] using member
    | timerFires timer =>
        simp only [Workshop.perform, Scheduler.onTimer] at member
        split at member
        · rcases List.mem_append.mp member with known | new
          · exact known
          · split at new
            · cases new
            · have pending := pending_of_mem_startNext new
              exact absurd pending notPending
        · exact member
    | firstStep index =>
        rcases workshop.firstStep_cases index with ⟨own, contents, found⟩ | same
        · rw [perform_firstStep found] at member
          exact goesOn found member (by simp)
        · rwa [same] at member
    | runEnds index ending =>
        rcases workshop.runEnds_cases index ending with ⟨own, contents, found⟩ | same
        · rw [perform_runEnds found] at member
          split at member
          · exact goesOn found member (by simp)
          · rcases List.mem_append.mp member with changed | new
            · exact goesOn found changed (by simp)
            · have pending := pending_of_mem_startNext new
              exact absurd ((Scheduler.settle_pending _ _ _).symm.trans pending) notPending
        · rwa [same] at member

/-- A request that has been handed over stays so. -/
theorem not_untried_perform {workshop : Workshop ρ} {request : Nat}
    (tried : ¬ workshop.Untried request) (move : Move ρ) :
    ¬ (workshop.perform move).Untried request := by
  have kept {index own : Nat} {contents : String} {phase changed : TaskPhase ρ}
      (found : workshop.tasks[index]? = some ⟨own, contents, phase⟩) :
      ∃ task ∈ workshop.tasks.set index ⟨own, contents, changed⟩, task.request = request := by
    have same : (workshop.tasks.set index ⟨own, contents, changed⟩).map Task.request =
        workshop.tasks.map Task.request := map_request_set found
    have there := List.mem_map.mpr (not_untried.mp tried)
    rw [← same] at there
    exact List.mem_map.mp there
  have added (more : List (Task ρ)) {tasks : List (Task ρ)}
      (there : ∃ task ∈ tasks, task.request = request) :
      ∃ task ∈ tasks ++ more, task.request = request := by
    obtain ⟨task, member, own⟩ := there
    exact ⟨task, List.mem_append_left _ member, own⟩
  rw [not_untried]
  cases move with
  | request contents => exact added _ (not_untried.mp tried)
  | close => exact added _ (not_untried.mp tried)
  | cancel other => exact added _ (not_untried.mp tried)
  | timerFires timer =>
      simp only [perform]
      split
      · exact added _ (not_untried.mp tried)
      · exact not_untried.mp tried
  | firstStep index =>
      rcases workshop.firstStep_cases index with ⟨own, contents, found⟩ | same
      · rw [perform_firstStep found]
        exact kept found
      · rw [same]
        exact not_untried.mp tried
  | runEnds index ending =>
      rcases workshop.runEnds_cases index ending with ⟨own, contents, found⟩ | same
      · rw [perform_runEnds found]
        split
        · exact kept found
        · exact added _ (kept found)
      · rw [same]
        exact not_untried.mp tried

/-- The runner is called by the first step of a run. -/
theorem callsRunner_cases {workshop : Workshop ρ} {move : Move ρ} {request : Nat}
    (called : workshop.CallsRunner move request) :
    ∃ (index : Nat) (contents : String),
      workshop.tasks[index]? = some ⟨request, contents, .created⟩ := by
  obtain ⟨uncalled, call, made, rfl⟩ := called
  have unmade (same : (workshop.perform move).calls = workshop.calls) : False := by
    rw [same] at made
    exact uncalled call made rfl
  cases move with
  | request contents => exact (unmade rfl).elim
  | close => exact (unmade rfl).elim
  | cancel other => exact (unmade rfl).elim
  | timerFires timer =>
      refine (unmade ?_).elim
      simp only [perform]
      split <;> rfl
  | firstStep index =>
      rcases workshop.firstStep_cases index with ⟨own, contents, found⟩ | same
      · rw [perform_firstStep found] at made
        rcases List.mem_append.mp made with known | new
        · exact absurd rfl (uncalled call known)
        · cases List.mem_singleton.mp new
          exact ⟨index, contents, found⟩
      · exact (unmade (by rw [same])).elim
  | runEnds index ending =>
      refine (unmade ?_).elim
      rcases workshop.runEnds_cases index ending with ⟨own, contents, found⟩ | same
      · rw [perform_runEnds found]
        split <;> rfl
      · rw [same]

end Workshop

end LintClient.Schedule
