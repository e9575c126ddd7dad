import LintClient.Schedule.Scheduler
import Mathlib.Data.List.Basic

/-!
# Operations of the scheduler

What each operation does to the futures, the pending request, the timer and the active run. Later
modules cite these laws and do not open the operations again. Settling never touches a future that
is settled already.
-/

namespace LintClient.Schedule

variable {ρ : Type}

/-! ## Futures -/

/-- What is not settled is settled by the first outcome. -/
@[simp] theorem Future.settle_unsettled (outcome : Future ρ) :
    Future.settle .unsettled outcome = outcome := rfl

/-- What is not settled has no outcome yet. -/
theorem Future.isSettled_eq_false {future : Future ρ} :
    future.isSettled = false ↔ future = .unsettled := by
  cases future <;> simp [Future.isSettled]

/-- What a run ends in settles its request. -/
theorem RunEnd.isSettled_outcome (ending : RunEnd ρ) : ending.outcome.isSettled = true := by
  cases ending <;> rfl

namespace Scheduler

/-- The text of a request. -/
def contents? (scheduler : Scheduler ρ) (request : Nat) : Option String :=
  scheduler.requests[request]?.map (·.contents)

/-- A request is open while its future is unsettled. -/
theorem isOpen_iff {scheduler : Scheduler ρ} {request : Nat} :
    scheduler.isOpen request = true ↔ scheduler.future? request = some .unsettled := by
  unfold isOpen
  cases found : scheduler.future? request with
  | none => simp
  | some future => cases future <;> simp [Future.isSettled]

/-- Futures are kept with the requests. -/
theorem future?_congr {scheduler other : Scheduler ρ}
    (same : scheduler.requests = other.requests) (request : Nat) :
    scheduler.future? request = other.future? request := by
  rw [future?, same, future?]

/-- Texts are kept with the requests. -/
theorem contents?_congr {scheduler other : Scheduler ρ}
    (same : scheduler.requests = other.requests) (request : Nat) :
    scheduler.contents? request = other.contents? request := by
  rw [contents?, same, contents?]

/-- Requests that have arrived are the ones with a future. -/
theorem future?_isSome_iff {scheduler : Scheduler ρ} {request : Nat} :
    (scheduler.future? request).isSome = true ↔ request < scheduler.requests.length := by
  simp [future?]

/-- A request that has arrived has a text. -/
theorem exists_contents {scheduler : Scheduler ρ} {request : Nat}
    (arrived : request < scheduler.requests.length) :
    ∃ contents, scheduler.contents? request = some contents := by
  simp [contents?, arrived]

/-! ## Settling -/

section Settle

variable (scheduler : Scheduler ρ) (request : Nat) (outcome : Future ρ)

/-- To settle a request leaves the pending one as it is. -/
@[simp] theorem settle_pending :
    (scheduler.settle request outcome).1.pending = scheduler.pending := by
  unfold settle
  split <;> rfl

/-- To settle a request leaves the timer as it is. -/
@[simp] theorem settle_timer : (scheduler.settle request outcome).1.timer = scheduler.timer := by
  unfold settle
  split <;> rfl

/-- To settle a request leaves the run in flight as it is. -/
@[simp] theorem settle_active : (scheduler.settle request outcome).1.active = scheduler.active := by
  unfold settle
  split <;> rfl

/-- To settle a request makes no other one. -/
@[simp] theorem settle_length :
    (scheduler.settle request outcome).1.requests.length = scheduler.requests.length := by
  unfold settle
  split <;> simp

/-- Settling leaves the texts of all requests. -/
@[simp] theorem settle_contents? (other : Nat) :
    (scheduler.settle request outcome).1.contents? other = scheduler.contents? other := by
  unfold settle contents?
  split
  · by_cases same : request = other
    · subst same
      simp [Option.map_map, Function.comp_def]
    · simp [List.getElem?_modify_ne, same]
  · rfl

/-- Settling a request that is not open changes nothing. -/
theorem settle_of_not_isOpen (closed : ¬ scheduler.isOpen request = true) :
    scheduler.settle request outcome = (scheduler, []) := by
  simp [settle, closed]

/-- Settling an open request settles its future and leaves all others. -/
theorem settle_future? (opened : scheduler.isOpen request = true) (other : Nat) :
    (scheduler.settle request outcome).1.future? other =
      if other = request then some outcome else scheduler.future? other := by
  have unsettled := isOpen_iff.mp opened
  unfold settle
  rw [if_pos opened]
  by_cases same : other = request
  · subst same
    rw [future?, Option.map_eq_some_iff] at unsettled
    obtain ⟨entry, found, future⟩ := unsettled
    simp [future?, found, future]
  · simp [future?, List.getElem?_modify_ne, Ne.symm same, same]

/-- A request that settling leaves open was open. -/
theorem isOpen_of_settle {other : Nat}
    (stillOpen : (scheduler.settle request outcome).1.isOpen other = true)
    (settles : outcome.isSettled = true) : scheduler.isOpen other = true := by
  by_cases opened : scheduler.isOpen request = true
  · rw [isOpen_iff, settle_future? _ _ _ opened] at stillOpen
    split at stillOpen
    next =>
      cases Option.some.inj stillOpen
      cases settles
    next => exact isOpen_iff.mpr stillOpen
  · rwa [settle_of_not_isOpen _ _ _ opened] at stillOpen

/-- Settling a request leaves the futures of all others. -/
theorem settle_future?_of_ne {other : Nat} (different : other ≠ request) :
    (scheduler.settle request outcome).1.future? other = scheduler.future? other := by
  by_cases opened : scheduler.isOpen request = true
  · rw [settle_future? _ _ _ opened, if_neg different]
  · rw [settle_of_not_isOpen _ _ _ opened]

/-- Settling a request neither opens nor closes another one. -/
theorem settle_isOpen_of_ne {other : Nat} (different : other ≠ request) :
    (scheduler.settle request outcome).1.isOpen other = scheduler.isOpen other := by
  unfold isOpen
  rw [settle_future?_of_ne _ _ _ different]

/-- Settling an open request is told of. -/
theorem settle_effects (opened : scheduler.isOpen request = true) :
    (scheduler.settle request outcome).2 = [.settled request] := by
  simp [settle, opened]

end Settle

/-- A request that has been settled is not open. -/
theorem not_isOpen_settle (scheduler : Scheduler ρ) (request : Nat) {outcome : Future ρ}
    (settles : outcome.isSettled = true) :
    ¬ (scheduler.settle request outcome).1.isOpen request = true := by
  by_cases opened : scheduler.isOpen request = true
  · rw [isOpen_iff, settle_future? _ _ _ opened, if_pos rfl, Option.some.injEq]
    rintro rfl
    cases settles
  · rwa [settle_of_not_isOpen _ _ _ opened]

/-! ## Admitting -/

/-- A new request has the next number, and the others keep their futures. -/
theorem future?_admit (scheduler : Scheduler ρ) (entry : Request ρ) (pending : Option Nat)
    (timer : Bool) (request : Nat) :
    ({ scheduler with
        requests := scheduler.requests ++ [entry]
        pending := pending
        timer := timer } : Scheduler ρ).future? request =
      if request = scheduler.requests.length then some entry.future
      else scheduler.future? request := by
  simp only [future?]
  split
  next same => simp [same]
  next different =>
    rcases Nat.lt_or_gt_of_ne different with known | unknown
    · rw [List.getElem?_append_left known]
    · rw [List.getElem?_eq_none (by simp; omega), List.getElem?_eq_none (by omega)]

/-! ## Superseding -/

section Supersede

variable (scheduler : Scheduler ρ)

/-- Nothing is pending after the pending request is dropped. -/
@[simp] theorem supersede_pending : scheduler.supersede.1.pending = none := rfl

/-- To drop the pending request makes no other one. -/
@[simp] theorem supersede_length :
    scheduler.supersede.1.requests.length = scheduler.requests.length := by
  unfold supersede
  cases scheduler.pending <;> simp

/-- To drop the pending request leaves the run in flight as it is. -/
@[simp] theorem supersede_active : scheduler.supersede.1.active = scheduler.active := by
  unfold supersede
  cases scheduler.pending <;> simp

/-- With a pending request, superseding settles it. -/
theorem supersede_of_pending {request : Nat} (pending : scheduler.pending = some request) :
    scheduler.supersede =
      ({ (scheduler.settle request .superseded).1 with pending := none, timer := false },
        (scheduler.settle request .superseded).2) := by
  simp [supersede, pending]

/-- Without one, it only stops the timer. -/
theorem supersede_of_idle (idle : scheduler.pending = none) :
    scheduler.supersede = ({ scheduler with pending := none, timer := false }, []) := by
  simp [supersede, idle]

/-- Superseding leaves the texts of all requests. -/
@[simp] theorem supersede_contents? (request : Nat) :
    scheduler.supersede.1.contents? request = scheduler.contents? request := by
  cases pending : scheduler.pending with
  | none => rw [supersede_of_idle _ pending, contents?, contents?]
  | some held =>
      rw [supersede_of_pending _ pending]
      exact settle_contents? scheduler held .superseded request

/-- Superseding settles the pending request, if it is open, and leaves all others. -/
theorem supersede_future? (request : Nat) :
    scheduler.supersede.1.future? request = scheduler.future? request ∨
      scheduler.pending = some request ∧ scheduler.isOpen request = true ∧
        scheduler.supersede.1.future? request = some .superseded := by
  cases pending : scheduler.pending with
  | none =>
      rw [supersede_of_idle _ pending]
      exact .inl rfl
  | some held =>
      rw [supersede_of_pending _ pending]
      by_cases opened : scheduler.isOpen held = true
      · have future := settle_future? scheduler held .superseded opened request
        split at future
        next same =>
          subst same
          exact .inr ⟨rfl, opened, future⟩
        next => exact .inl future
      · rw [settle_of_not_isOpen _ _ _ opened]
        exact .inl rfl

end Supersede

/-! ## Handing over -/

/-- A pending request is handed over, if it is open, or dropped. -/
theorem startNext_cases (scheduler : Scheduler ρ) :
    (scheduler.pending = none ∧ scheduler.startNext = (scheduler, [])) ∨
      ∃ request, scheduler.pending = some request ∧
        ((scheduler.isOpen request = true ∧ scheduler.startNext =
            ({ scheduler with pending := none, active := some ⟨request, .created⟩ },
              [.created request])) ∨
          (scheduler.isOpen request = false ∧ scheduler.startNext =
            ({ scheduler with pending := none }, []))) := by
  unfold startNext
  cases pending : scheduler.pending with
  | none => exact .inl ⟨rfl, rfl⟩
  | some request =>
      refine .inr ⟨request, rfl, ?_⟩
      cases opened : scheduler.isOpen request
      · exact .inr ⟨rfl, by simp [opened]⟩
      · exact .inl ⟨rfl, by simp [opened]⟩

/-- To create the next run leaves the requests as they are. -/
@[simp] theorem startNext_requests (scheduler : Scheduler ρ) :
    scheduler.startNext.1.requests = scheduler.requests := by
  rcases startNext_cases scheduler with ⟨_, same⟩ | ⟨_, _, ⟨_, started⟩ | ⟨_, dropped⟩⟩
  · rw [same]
  · rw [started]
  · rw [dropped]

/-- To create the next run leaves the timer as it is. -/
@[simp] theorem startNext_timer (scheduler : Scheduler ρ) :
    scheduler.startNext.1.timer = scheduler.timer := by
  rcases startNext_cases scheduler with ⟨_, same⟩ | ⟨_, _, ⟨_, started⟩ | ⟨_, dropped⟩⟩
  · rw [same]
  · rw [started]
  · rw [dropped]

/-- Nothing is pending after the next run is created. -/
@[simp] theorem startNext_pending (scheduler : Scheduler ρ) :
    scheduler.startNext.1.pending = none := by
  rcases startNext_cases scheduler with ⟨idle, same⟩ | ⟨_, _, ⟨_, started⟩ | ⟨_, dropped⟩⟩
  · rw [same, idle]
  · rw [started]
  · rw [dropped]

end Scheduler

end LintClient.Schedule
