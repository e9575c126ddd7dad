import LintClient.Proofs.Schedule.Cause
import Mathlib.Data.List.Nodup

/-!
# Where each request is

A request waits or is settled, and what it is settled as tells what has happened to it. The answer
that a request holds comes from the one call of the runner that was made with its own text.
-/

namespace LintClient.Schedule

variable {ρ : Type}

/-- Where a request can be. -/
inductive Situation where
  | waiting
  | superseded
  | cancelled
  | delivered
deriving DecidableEq, Repr

open Workshop

/-- What it means that a request is in a situation after some moves. -/
def Situation.Holds (moves : List (Move ρ)) (request : Nat) : Situation → Prop
  | .waiting =>
    (after moves).scheduler.isOpen request = true ∧
      ((after moves).scheduler.pending = some request ∨
        ∃ run, (after moves).scheduler.active = some run ∧ run.request = request)
  | .superseded =>
    (after moves).scheduler.future? request = some .superseded ∧
      (∃ earlier move later, moves = earlier ++ move :: later ∧
        (after earlier).scheduler.pending = some request ∧
          (move = .close ∨ ∃ contents, move = .request contents)) ∧
      ∀ more, ∀ call ∈ (after (moves ++ more)).calls, call.1 ≠ request
  | .cancelled =>
    (after moves).scheduler.future? request = some .cancelled ∧
      ∃ earlier move later, moves = earlier ++ move :: later ∧
        (after earlier).scheduler.isOpen request = true ∧
          (move = .cancel request ∨ ∃ index contents, move = .runEnds index .cancelled ∧
            (after earlier).tasks[index]? = some ⟨request, contents, .running⟩)
  | .delivered =>
    ∃ answer contents, (after moves).scheduler.future? request = some (.answered answer) ∧
      (after moves).scheduler.contents? request = some contents ∧
      ((after moves).calls.map Prod.fst).count request = 1 ∧
      (request, contents) ∈ (after moves).calls ∧
      ∃ earlier index later, moves = earlier ++ .runEnds index (.answered answer) :: later ∧
        (after earlier).tasks[index]? = some ⟨request, contents, .running⟩

/-- The situation that a future belongs to. -/
def Future.situation : Future ρ → Situation
  | .unsettled => .waiting
  | .superseded => .superseded
  | .cancelled => .cancelled
  | .answered _ => .delivered

/-- A request is in no situation but the one its future belongs to. -/
theorem Situation.Holds.eq_situation {moves : List (Move ρ)} {request : Nat}
    {situation : Situation} (holds : situation.Holds moves request) {future : Future ρ}
    (found : (after moves).scheduler.future? request = some future) :
    situation = future.situation := by
  cases situation with
  | waiting =>
      cases (Scheduler.isOpen_iff.mp holds.1).symm.trans found
      rfl
  | superseded =>
      cases holds.1.symm.trans found
      rfl
  | cancelled =>
      cases holds.1.symm.trans found
      rfl
  | delivered =>
      obtain ⟨answer, -, answered, -⟩ := holds
      cases answered.symm.trans found
      rfl

/-- No task supersedes its request. -/
theorem TaskPhase.outcome_ne_superseded (phase : TaskPhase ρ) :
    phase.outcome ≠ .superseded := by
  cases phase with
  | created => nofun
  | running => nofun
  | ended ending => cases ending <;> nofun

namespace Workshop

/-- A call of the runner is made by a task. -/
theorem Orderly.exists_caller {workshop : Workshop ρ} (orderly : workshop.Orderly)
    {call : Nat × String} (made : call ∈ workshop.calls) :
    ∃ task ∈ workshop.tasks, (task.request, task.contents) = call ∧ task.phase ≠ .created := by
  rw [orderly.callsMade] at made
  obtain ⟨task, member, called⟩ := List.mem_filterMap.mp made
  exact ⟨task, member, Task.call?_eq_some.mp called⟩

/-- The runner is called once for a request at most, and in the order of the requests. -/
theorem Orderly.calls_ordered {workshop : Workshop ρ} (orderly : workshop.Orderly) :
    (workshop.calls.map Prod.fst).Pairwise (· < ·) := by
  have ordered := orderly.tasksOrdered
  rw [List.pairwise_map] at ordered ⊢
  rw [orderly.callsMade, List.pairwise_filterMap]
  refine ordered.imp ?_
  intro task other before call called otherCall otherCalled
  obtain ⟨rfl, -⟩ := Task.call?_eq_some.mp called
  obtain ⟨rfl, -⟩ := Task.call?_eq_some.mp otherCalled
  exact before

/-- A superseded request has no task. -/
theorem Orderly.untried_of_superseded {workshop : Workshop ρ} (orderly : workshop.Orderly)
    {request : Nat} (superseded : workshop.scheduler.future? request = some .superseded) :
    ∀ task ∈ workshop.tasks, task.request ≠ request := by
  rintro task member rfl
  rcases orderly.taskFuture task member with outcome | cancelled
  · exact task.phase.outcome_ne_superseded (Option.some.inj (outcome.symm.trans superseded))
  · cases superseded.symm.trans cancelled

/-- The runner is never called for a request without a task. -/
theorem Orderly.uncalled {workshop : Workshop ρ} (orderly : workshop.Orderly) {request : Nat}
    (untried : ∀ task ∈ workshop.tasks, task.request ≠ request) :
    ∀ call ∈ workshop.calls, call.1 ≠ request := by
  rintro call made
  obtain ⟨task, member, rfl, -⟩ := orderly.exists_caller made
  exact untried task member

end Workshop

/-! ## The situations -/

section Situations

variable {moves : List (Move ρ)} {request : Nat}

/-- An unsettled request is the pending or the active one. -/
theorem waiting_holds (found : (after moves).scheduler.future? request = some .unsettled) :
    Situation.waiting.Holds moves request := by
  have opened := Scheduler.isOpen_iff.mpr found
  exact ⟨opened, (orderly_after moves).openHeld request opened⟩

/-- A superseded request was pending when a newer one or the end came, and never gets a run. -/
theorem superseded_holds (found : (after moves).scheduler.future? request = some .superseded) :
    Situation.superseded.Holds moves request := by
  refine ⟨found, ?_, ?_⟩
  · obtain ⟨earlier, move, later, split, -, settles⟩ := exists_settles found rfl
    generalize outcome : Future.superseded = future at settles
    cases settles with
    | newer contents pending =>
        exact ⟨earlier, _, later, split, pending, .inr ⟨contents, rfl⟩⟩
    | closed pending => exact ⟨earlier, _, later, split, pending, .inl rfl⟩
    | calledOff => cases outcome
    | ended ending _ => cases ending <;> cases outcome
  · intro more
    have stays := settled_append found rfl more
    have orderly := orderly_after (moves ++ more)
    exact orderly.uncalled (orderly.untried_of_superseded stays)

/-- A cancelled request was cancelled by its caller or by its own run. -/
theorem cancelled_holds (found : (after moves).scheduler.future? request = some .cancelled) :
    Situation.cancelled.Holds moves request := by
  refine ⟨found, ?_⟩
  obtain ⟨earlier, move, later, split, opened, settles⟩ := exists_settles found rfl
  refine ⟨earlier, move, later, split, opened, ?_⟩
  generalize outcome : Future.cancelled = future at settles
  cases settles with
  | newer => cases outcome
  | closed => cases outcome
  | calledOff => exact .inl rfl
  | ended ending running =>
      cases ending with
      | answered answer => cases outcome
      | cancelled => exact .inr ⟨_, _, rfl, running⟩

/-- A request that holds an answer has it from the one call that was made with its own text. -/
theorem delivered_holds {answer : ρ}
    (found : (after moves).scheduler.future? request = some (.answered answer)) :
    Situation.delivered.Holds moves request := by
  have orderly := orderly_after moves
  obtain ⟨task, member, rfl, gone⟩ := orderly.answersGiven request answer found
  have called : (task.request, task.contents) ∈ (after moves).calls := by
    rw [orderly.callsMade]
    exact List.mem_filterMap.mpr ⟨task, member, Task.call?_eq_some.mpr ⟨rfl, by simp [gone]⟩⟩
  refine ⟨answer, task.contents, found, orderly.textsOwn task member, ?_, called, ?_⟩
  · refine List.count_eq_one_of_mem ?_ (List.mem_map.mpr ⟨_, called, rfl⟩)
    exact orderly.calls_ordered.imp fun before => Nat.ne_of_lt before
  · obtain ⟨earlier, move, later, rfl, -, settles⟩ := exists_settles found rfl
    generalize outcome : Future.answered answer = future at settles
    cases settles with
    | newer => cases outcome
    | closed => cases outcome
    | calledOff => cases outcome
    | @ended index contents ending running =>
        have own := (orderly_after earlier).textsOwn _ (List.mem_of_getElem? running)
        have kept := contents?_append own (.runEnds index ending :: later)
        have same := Option.some.inj (kept.symm.trans (orderly.textsOwn task member))
        cases ending with
        | cancelled => cases outcome
        | answered given =>
            cases outcome
            exact ⟨earlier, index, later, rfl, same ▸ running⟩

end Situations

/-- Requests are settled once and for all, and each holds what is its own, whatever the order of
requests, closings, cancellations, timers, first steps and ends of runs. Each request is in exactly
one situation, its future is settled at most once and never changes afterwards, and the runner is
called once for each request at most, in the order of the requests. A request that was settled
before its turn came is never handed to the runner. -/
theorem settlement_and_delivery (moves : List (Move ρ)) :
    (∀ request < (after moves).scheduler.requests.length,
      ∃! situation : Situation, situation.Holds moves request) ∧
    (∀ request, (after moves).effects.count (.settled request) =
      if ((after moves).scheduler.future? request).any Future.isSettled then 1 else 0) ∧
    (∀ request future, (after moves).scheduler.future? request = some future →
      future.isSettled = true →
        ∀ more, (after (moves ++ more)).scheduler.future? request = some future) ∧
    ((after moves).calls.map Prod.fst).Pairwise (· < ·) ∧
    ∀ request future, (after moves).scheduler.future? request = some future →
      future.isSettled = true → (∀ task ∈ (after moves).tasks, task.request ≠ request) →
        ∀ more, ∀ call ∈ (after (moves ++ more)).calls, call.1 ≠ request := by
  have orderly := orderly_after moves
  refine ⟨?situation, orderly.settledOnce, ?stays, orderly.calls_ordered, ?untried⟩
  case situation =>
    intro request arrived
    obtain ⟨future, found⟩ :=
      Option.isSome_iff_exists.mp (Scheduler.future?_isSome_iff.mpr arrived)
    refine ⟨future.situation, ?_, fun other holds => holds.eq_situation found⟩
    cases future with
    | unsettled => exact waiting_holds found
    | superseded => exact superseded_holds found
    | cancelled => exact cancelled_holds found
    | answered answer => exact delivered_holds found
  case stays => exact fun request future found settled more => settled_append found settled more
  case untried =>
    intro request future found settled untried more
    exact (orderly_after (moves ++ more)).uncalled (untried_append found settled untried more)

end LintClient.Schedule
