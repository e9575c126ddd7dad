import LintClient.Proofs.Schedule.Coverage
import LintClient.Proofs.Schedule.Serving

/-!
# Runs that are aborted

What a run leaves behind it is cleared up by the run itself. A run that is aborted while the runner
is at work does so like any other run that ends (`Scheduler.step_abort_of_running`). A run that is
aborted before its first step never does: it keeps the place for runs, and nothing that happens
afterwards takes the place from it (`Scheduler.Keeps.run`).
-/

namespace LintClient.Schedule

variable {ρ : Type}

namespace Scheduler

/-- The scheduler after some events. -/
def after (events : List (Event ρ)) : Scheduler ρ :=
  (start.run events).1

/-- The last event is taken from what the earlier ones have come to. -/
theorem after_concat (events : List (Event ρ)) (event : Event ρ) :
    after (events ++ [event]) = ((after events).step event).1 := by
  rw [after, run_concat, after]

/-- To run through events and then more of them is to run through them all. -/
theorem run_append (scheduler : Scheduler ρ) (events more : List (Event ρ)) :
    (scheduler.run (events ++ more)).1 = ((scheduler.run events).1.run more).1 := by
  induction events generalizing scheduler with
  | nil => rfl
  | cons event events inductionHypothesis => exact inductionHypothesis (scheduler.step event).1

/-- A run that is aborted while the runner is at work ends like one that the runner cancelled. -/
theorem step_abort_of_running {scheduler : Scheduler ρ} {request : Nat}
    (active : scheduler.active = some ⟨request, .running⟩) :
    scheduler.step .abort = scheduler.step (.runEnds .cancelled) := by
  simp [step, active]

/-- A run that was aborted before its first step keeps the place for runs. -/
structure Keeps (scheduler : Scheduler ρ) (request : Nat) : Prop where
  active : scheduler.active = some ⟨request, .lost⟩
  arrived : request < scheduler.requests.length
  notPending : scheduler.pending ≠ some request

/-- A run that is aborted before its first step keeps its place. -/
theorem keeps_abort {scheduler : Scheduler ρ} {request : Nat}
    (active : scheduler.active = some ⟨request, .created⟩)
    (arrived : request < scheduler.requests.length)
    (notPending : scheduler.pending ≠ some request) :
    scheduler.step .abort = ({ scheduler with active := some ⟨request, .lost⟩ }, []) ∧
      (scheduler.step .abort).1.Keeps request := by
  have stepped : scheduler.step .abort =
      ({ scheduler with active := some ⟨request, .lost⟩ }, []) := by
    simp [step, active]
  rw [stepped]
  exact ⟨rfl, rfl, arrived, notPending⟩

/-- Settling a request creates no run. -/
theorem created_notMem_settle (scheduler : Scheduler ρ) (request other : Nat)
    (outcome : Future ρ) : .created other ∉ (scheduler.settle request outcome).2 := by
  unfold settle
  split <;> simp

/-- To supersede a request creates no run. -/
theorem created_notMem_supersede (scheduler : Scheduler ρ) (other : Nat) :
    .created other ∉ scheduler.supersede.2 := by
  cases pending : scheduler.pending with
  | none =>
      rw [supersede_of_idle _ pending]
      exact List.not_mem_nil
  | some request =>
      rw [supersede_of_pending _ pending]
      exact created_notMem_settle _ _ _ _

/-- What an event leaves as it is when the place for runs is kept: the place, and the answers. -/
structure Stands (scheduler : Scheduler ρ) (request : Nat) (event : Event ρ) : Prop where
  keeps : (scheduler.step event).1.Keeps request
  noRun : ∀ other, .created other ∉ (scheduler.step event).2
  future : event ≠ .cancel request →
    (scheduler.step event).1.future? request = scheduler.future? request
  answers : ∀ other answer, (scheduler.step event).1.future? other = some (.answered answer) →
    scheduler.future? other = some (.answered answer)

/-- An event that changes nothing leaves everything as it is. -/
theorem Keeps.stands_of_same {scheduler : Scheduler ρ} {request : Nat} {event : Event ρ}
    (keeps : scheduler.Keeps request) (same : scheduler.step event = (scheduler, [])) :
    scheduler.Stands request event := by
  constructor <;> rw [same]
  case keeps => exact keeps
  case noRun => exact fun _ => List.not_mem_nil
  case future => exact fun _ => rfl
  case answers => exact fun _ _ answered => answered

/-- Dropping the pending request gives no answer and leaves the request of the run alone. -/
theorem Keeps.supersede {scheduler : Scheduler ρ} {request : Nat}
    (keeps : scheduler.Keeps request) :
    scheduler.supersede.1.Keeps request ∧
      scheduler.supersede.1.future? request = scheduler.future? request ∧
      ∀ other answer, scheduler.supersede.1.future? other = some (.answered answer) →
        scheduler.future? other = some (.answered answer) := by
  refine ⟨⟨scheduler.supersede_active.trans keeps.active, ?_, nofun⟩, ?_, ?_⟩
  · rw [supersede_length]
    exact keeps.arrived
  · rcases scheduler.supersede_future? request with same | ⟨pending, -⟩
    · exact same
    · exact absurd pending keeps.notPending
  · intro other answer answered
    rcases scheduler.supersede_future? other with same | ⟨-, -, superseded⟩
    · exact same ▸ answered
    · cases superseded.symm.trans answered

/-- No event takes the place from a run that was aborted too early. -/
theorem Keeps.step {scheduler : Scheduler ρ} {request : Nat} (keeps : scheduler.Keeps request)
    (event : Event ρ) : scheduler.Stands request event := by
  have active := keeps.active
  have arrived := keeps.arrived
  cases event with
  | request contents =>
      obtain ⟨dropped, future, answers⟩ := keeps.supersede
      have length := scheduler.supersede_length
      have different : request ≠ scheduler.supersede.1.requests.length := by omega
      have admitted (other : Nat) : (scheduler.step (.request contents)).1.future? other =
          if other = scheduler.supersede.1.requests.length then some .unsettled
          else scheduler.supersede.1.future? other := future?_admit _ _ _ _ _
      constructor
      case keeps =>
        refine ⟨dropped.active, ?_, ?_⟩
        · refine Nat.lt_of_lt_of_le dropped.arrived ?_
          exact (List.length_append ..).symm ▸ Nat.le_add_right ..
        · exact fun same => different (Option.some.inj same).symm
      case noRun => exact created_notMem_supersede scheduler
      case future => exact fun _ => (admitted request).trans ((if_neg different).trans future)
      case answers =>
        intro other answer answered
        rw [admitted] at answered
        split at answered
        · cases answered
        · exact answers other answer answered
  | close =>
      obtain ⟨dropped, future, answers⟩ := keeps.supersede
      exact ⟨dropped, created_notMem_supersede scheduler, fun _ => future, answers⟩
  | cancel called =>
      constructor
      case keeps =>
        exact ⟨(settle_active _ _ _).trans active, (settle_length _ _ _).symm ▸ arrived,
          (settle_pending _ _ _).symm ▸ keeps.notPending⟩
      case noRun => exact fun other => created_notMem_settle _ _ _ _
      case future =>
        intro notOwn
        refine settle_future?_of_ne _ _ _ ?_
        rintro rfl
        exact notOwn rfl
      case answers =>
        intro other answer answered
        by_cases opened : scheduler.isOpen called = true
        · have changed := settle_future? scheduler called .cancelled opened other
          rw [Scheduler.step, changed] at answered
          split at answered
          · cases answered
          · exact answered
        · rwa [Scheduler.step, settle_of_not_isOpen _ _ _ opened] at answered
  | timerFires =>
      by_cases armed : scheduler.timer = true
      · have fired : scheduler.step .timerFires = ({ scheduler with timer := false }, []) := by
          simp [Scheduler.step, armed, onTimer, active]
        constructor <;> rw [fired]
        case keeps => exact ⟨active, arrived, keeps.notPending⟩
        case noRun => exact fun _ => List.not_mem_nil
        case future => exact fun _ => rfl
        case answers => exact fun _ _ answered => answered
      · exact keeps.stands_of_same (by simp [Scheduler.step, armed])
  | runStarts => exact keeps.stands_of_same (by simp [Scheduler.step, active])
  | runEnds ending => exact keeps.stands_of_same (by simp [Scheduler.step, active])
  | abort => exact keeps.stands_of_same (by simp [Scheduler.step, active])

/-- A run that was aborted before its first step keeps its place for ever. No run is created any
more, no request is answered any more, and nobody but its caller settles the request of the run. -/
theorem Keeps.run {scheduler : Scheduler ρ} {request : Nat} (keeps : scheduler.Keeps request)
    (events : List (Event ρ)) : (scheduler.run events).1.Keeps request ∧
      (∀ other, .created other ∉ (scheduler.run events).2) ∧
      (.cancel request ∉ events →
        (scheduler.run events).1.future? request = scheduler.future? request) ∧
      ∀ other answer, (scheduler.run events).1.future? other = some (.answered answer) →
        scheduler.future? other = some (.answered answer) := by
  induction events generalizing scheduler with
  | nil => exact ⟨keeps, fun _ => List.not_mem_nil, fun _ => rfl, fun _ _ answered => answered⟩
  | cons event events inductionHypothesis =>
      have stands := keeps.step event
      obtain ⟨stays, noRun, future, answers⟩ := inductionHypothesis stands.keeps
      refine ⟨stays, ?_, ?_, ?_⟩
      · intro other created
        rcases List.mem_append.mp created with now | later
        · exact stands.noRun other now
        · exact noRun other later
      · intro notCalled
        rw [List.mem_cons, not_or] at notCalled
        exact (future notCalled.2).trans (stands.future (Ne.symm notCalled.1))
      · intro other answer answered
        exact stands.answers other answer (answers other answer answered)

/-- While the place is kept, timers fire and nothing else goes on. -/
theorem step_timerFires_run {scheduler : Scheduler ρ} {request : Nat}
    (active : scheduler.active = some ⟨request, .lost⟩) (armed : scheduler.timer = true)
    (first second : RunEnd ρ) (other : Nat) :
    (scheduler.run [.timerFires, .runStarts, .runEnds first, .runStarts,
      .runEnds second]).1.future? other = scheduler.future? other := by
  have fired := step_timerFires_of_busy armed (by simp [active])
  simp only [run, fired]
  simp only [step, active]
  rfl

/-- Behind such a run no request is served. -/
theorem Keeps.not_serves {scheduler : Scheduler ρ} {request : Nat}
    (keeps : scheduler.Keeps request) : ¬ scheduler.Serves := by
  intro serves
  obtain ⟨-, armed, active, opened⟩ := scheduler.step_request ""
  have busy := active.trans keeps.active
  have waits := isOpen_iff.mp opened
  have served := serves "" .cancelled
  -- Its timer fires, and then there is no run that would start or end.
  have stays := step_timerFires_run busy armed .cancelled .cancelled scheduler.requests.length
  cases waits.symm.trans (stays.symm.trans served)

end Scheduler

namespace Workshop

/-- The run that the scheduler holds is known to it, and its request is not pending. -/
theorem Orderly.active_known {workshop : Workshop ρ} (orderly : workshop.Orderly)
    {run : ActiveRun} (active : workshop.scheduler.active = some run) :
    run.request < workshop.scheduler.requests.length ∧
      workshop.scheduler.pending ≠ some run.request := by
  obtain ⟨task, member, running⟩ := orderly.exists_task active
  rw [Task.request_of_run? running]
  exact ⟨orderly.task_lt member, fun pending => orderly.untried pending member rfl⟩

/-- No run that the scheduler holds has been aborted. -/
theorem Orderly.active_not_lost {workshop : Workshop ρ} (orderly : workshop.Orderly)
    (request : Nat) : workshop.scheduler.active ≠ some ⟨request, .lost⟩ := by
  intro active
  obtain ⟨index, contents, ⟨created, -⟩ | ⟨running, -⟩⟩ := orderly.exists_place active
  · cases created
  · cases running

/-- An event that comes to the same as one that is no abort is a move or changes nothing. -/
theorem exists_concat {moves : List (Move ρ)} {events : List (Event ρ)}
    (same : (after moves).Matches events) {event : Event ρ} (calmer : Event ρ)
    (calm : calmer ≠ .abort)
    (alike : (after moves).scheduler.step event = (after moves).scheduler.step calmer) :
    ∃ moves, (after moves).Matches (events ++ [event]) := by
  rcases (orderly_after moves).exists_move calm with unchanged | ⟨move, follows⟩
  · refine ⟨moves, ?_⟩
    rw [Matches, Scheduler.run_concat, same, alike, unchanged, List.append_nil]
  · refine ⟨moves ++ [move], ?_⟩
    rw [after_concat, Matches, Scheduler.run_concat, same, alike, follows.1, follows.2]

/-- Unless a run was aborted before its first step, what the transition system comes to with aborts
the workshop comes to without them. -/
theorem exists_moves_or_keeps (events : List (Event ρ)) :
    (∃ moves, (after moves).Matches events) ∨
      ∃ request, (Scheduler.after events).Keeps request := by
  induction events using List.reverseRecOn with
  | nil => exact .inl ⟨[], rfl⟩
  | append_singleton events event inductionHypothesis =>
      rcases inductionHypothesis with ⟨moves, same⟩ | ⟨request, keeps⟩
      case inr =>
        refine .inr ⟨request, ?_⟩
        rw [Scheduler.after_concat]
        exact (keeps.step event).keeps
      case inl =>
        have orderly := orderly_after moves
        have state : Scheduler.after events = (after moves).scheduler := congrArg Prod.fst same
        by_cases calm : event ≠ .abort
        · exact .inl (exists_concat same event calm rfl)
        · obtain rfl := not_not.mp calm
          cases active : (after moves).scheduler.active with
          | none =>
              have nothing : (after moves).scheduler.step .abort =
                  (after moves).scheduler.step .runStarts := by simp [Scheduler.step, active]
              exact .inl (exists_concat same .runStarts (by simp) nothing)
          | some run =>
              obtain ⟨request, phase⟩ := run
              cases phase with
              | created =>
                  obtain ⟨arrived, notPending⟩ := orderly.active_known active
                  refine .inr ⟨request, ?_⟩
                  rw [Scheduler.after_concat, state]
                  exact (Scheduler.keeps_abort active arrived notPending).2
              | running =>
                  exact .inl (exists_concat same (.runEnds .cancelled) (by simp)
                    (Scheduler.step_abort_of_running active))
              | lost => exact absurd active (orderly.active_not_lost request)

end Workshop

/-- A workshop serves new requests. -/
theorem Workshop.serves_after (moves : List (Move ρ)) : (after moves).scheduler.Serves := by
  have orderly := orderly_after moves
  exact Scheduler.serves_of_not_lost orderly.active_not_lost fun run active =>
    (orderly.active_known active).1

/-- A run in flight that ends at an event ends so. -/
theorem Scheduler.step_of_ending {scheduler : Scheduler ρ} {request : Nat} {event : Event ρ}
    {ending : RunEnd ρ} (active : scheduler.active = some ⟨request, .running⟩)
    (ends : event.ending? = some ending) :
    scheduler.step event = scheduler.step (.runEnds ending) := by
  cases event with
  | runEnds given =>
      cases ends
      rfl
  | abort =>
      cases ends
      exact step_abort_of_running active
  | request => cases ends
  | close => cases ends
  | cancel => cases ends
  | timerFires => cases ends
  | runStarts => cases ends

/-- A run that has been created or is at work goes back to a history of the workshop. -/
theorem Workshop.exists_moves_of_active {events : List (Event ρ)} {request : Nat} {phase : RunPhase}
    (active : (Scheduler.after events).active = some ⟨request, phase⟩) (notLost : phase ≠ .lost) :
    ∃ moves, (after moves).Matches events := by
  refine (exists_moves_or_keeps events).resolve_right ?_
  rintro ⟨other, keeps⟩
  cases active.symm.trans keeps.active
  exact notLost rfl

/-- A run that ends settles its request, makes way for the request that waits for it, and leaves a
scheduler that serves new requests. -/
theorem Scheduler.after_ending {events : List (Event ρ)} {request : Nat} {event : Event ρ}
    {ending : RunEnd ρ} (active : (after events).active = some ⟨request, .running⟩)
    (ends : event.ending? = some ending) :
    ((after (events ++ [event])).future? request = some ending.outcome ∨
        (after (events ++ [event])).future? request = some .cancelled) ∧
      (after (events ++ [event])).active =
        (after events).waiting?.map (fun waiting => ⟨waiting, .created⟩) ∧
      (after (events ++ [event])).Serves ∧
      ∃ moves, (Workshop.after moves).Matches (events ++ [event]) := by
  obtain ⟨moves, same⟩ := Workshop.exists_moves_of_active active (by simp)
  have state : after events = (Workshop.after moves).scheduler := congrArg Prod.fst same
  have orderly := Workshop.orderly_after moves
  have known : (Workshop.after moves).scheduler.active = some ⟨request, .running⟩ :=
    state ▸ active
  have alike := step_of_ending known ends
  have next : after (events ++ [event]) =
      ((Workshop.after moves).scheduler.endRun request ending).1 := by
    rw [after_concat, state, alike]
    simp [step, known]
  obtain ⟨index, contents, ⟨created, -⟩ | ⟨-, found⟩⟩ := orderly.exists_place known
  · cases created
  obtain ⟨further, follows⟩ := Workshop.exists_concat same (.runEnds ending) (by simp) alike
  have final : after (events ++ [event]) = (Workshop.after further).scheduler :=
    congrArg Prod.fst follows
  refine ⟨?settled, ?place, final ▸ Workshop.serves_after further, further, follows⟩
  case settled =>
    rw [next, endRun_future?]
    exact orderly.future_of_end (List.mem_of_getElem? found) ending
  case place =>
    rw [next, state]
    exact endRun_active _ _ _ (orderly.active_known known).2

/-- A run that is aborted before its first step clears nothing up, and nobody does so after it. -/
theorem Scheduler.after_early_abort {events : List (Event ρ)} {request : Nat}
    (active : (after events).active = some ⟨request, .created⟩) (more : List (Event ρ)) :
    (after (events ++ .abort :: more)).active = some ⟨request, .lost⟩ ∧
      (∀ other, .created other ∉ ((after events).run (.abort :: more)).2) ∧
      (.cancel request ∉ more →
        (after (events ++ .abort :: more)).future? request = (after events).future? request) ∧
      (∀ other answer,
        (after (events ++ .abort :: more)).future? other = some (.answered answer) →
          (after events).future? other = some (.answered answer)) ∧
      ¬ (after (events ++ .abort :: more)).Serves := by
  obtain ⟨moves, same⟩ := Workshop.exists_moves_of_active active (by simp)
  have state : after events = (Workshop.after moves).scheduler := congrArg Prod.fst same
  obtain ⟨arrived, notPending⟩ := (Workshop.orderly_after moves).active_known (state ▸ active)
  obtain ⟨aborted, keeps⟩ := keeps_abort active (state ▸ arrived) (state ▸ notPending)
  obtain ⟨stays, noRun, future, answers⟩ := keeps.run more
  have later : after (events ++ .abort :: more) =
      (((after events).step .abort).1.run more).1 := run_append _ _ _
  rw [later]
  rw [aborted] at noRun future answers stays ⊢
  refine ⟨stays.active, ?_, future, answers, stays.not_serves⟩
  intro other created
  exact noRun other (by simpa [run, aborted] using created)

/-- A run that is aborted while the runner is at work settles its request and frees the scheduler,
and so does every run that ends otherwise: the place goes to the request that waits for it alone, if
there is one, new requests are served, and what follows might as well have followed a history
without aborts. A run that is aborted after its creation and before its first step settles nothing:
it keeps the place for ever, no run is created and no request answered any more, and its own request
stays as it is unless its caller cancels it. -/
theorem aborted_runs (events : List (Event ρ)) :
    (∀ request event ending,
      (Scheduler.after events).active = some ⟨request, .running⟩ → event.ending? = some ending →
        ((Scheduler.after (events ++ [event])).future? request = some ending.outcome ∨
          (Scheduler.after (events ++ [event])).future? request = some .cancelled) ∧
        (Scheduler.after (events ++ [event])).active =
          (Scheduler.after events).waiting?.map (fun waiting => ⟨waiting, .created⟩) ∧
        (Scheduler.after (events ++ [event])).Serves ∧
        ∃ moves, (Workshop.after moves).Matches (events ++ [event])) ∧
    ∀ request, (Scheduler.after events).active = some ⟨request, .created⟩ →
      ∀ more : List (Event ρ),
        (Scheduler.after (events ++ .abort :: more)).active = some ⟨request, .lost⟩ ∧
        (∀ other, .created other ∉ ((Scheduler.after events).run (.abort :: more)).2) ∧
        (.cancel request ∉ more → (Scheduler.after (events ++ .abort :: more)).future? request =
          (Scheduler.after events).future? request) ∧
        (∀ other answer, (Scheduler.after (events ++ .abort :: more)).future? other =
            some (.answered answer) →
          (Scheduler.after events).future? other = some (.answered answer)) ∧
        ¬ (Scheduler.after (events ++ .abort :: more)).Serves :=
  ⟨fun _ _ _ active ends => Scheduler.after_ending active ends,
    fun _ active more => Scheduler.after_early_abort active more⟩

/-- Not every run that is aborted settles its request, frees the place and lets new requests be
served: the first run does none of this when it is aborted right after its creation. -/
theorem not_every_abort_frees_place :
    ¬ ∀ (events : List (Event Nat)) (request : Nat) (phase : RunPhase),
      (Scheduler.after events).active = some ⟨request, phase⟩ → phase ≠ .lost →
        ((Scheduler.after (events ++ [.abort])).future? request).any Future.isSettled = true ∧
        (Scheduler.after (events ++ [.abort])).active =
          (Scheduler.after events).waiting?.map (fun waiting => ⟨waiting, .created⟩) ∧
        (Scheduler.after (events ++ [.abort])).Serves := by
  intro frees
  have settled := (frees [.request "a", .timerFires] 0 .created (by decide) nofun).1
  exact absurd settled (by decide)

end LintClient.Schedule
