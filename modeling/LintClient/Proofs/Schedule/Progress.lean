import LintClient.Proofs.Schedule.Exclusion

/-!
# No request is lost

That the timer of the pending request has fired is written down nowhere but in the absence of the
timer. The pending request is then waiting for the run in flight, and `Served` says that there is
one. Together with `Orderly` it follows that a scheduler with nothing left to happen has settled
every request.
-/

namespace LintClient.Schedule.Workshop

variable {ρ : Type}

/-- The pending request waits for its timer or for the run in flight. -/
def Served (workshop : Workshop ρ) : Prop :=
  workshop.scheduler.pending.isSome = true →
    workshop.scheduler.timer = true ∨ workshop.scheduler.active.isSome = true

/-- Every move leaves something for the pending request to wait for. -/
theorem Served.perform {workshop : Workshop ρ} (served : workshop.Served) (move : Move ρ) :
    (workshop.perform move).Served := by
  cases move with
  | request contents => exact fun _ => .inl rfl
  | close => exact nofun
  | cancel request =>
      simpa [Served, Workshop.perform, take, Scheduler.step] using served
  | timerFires timer =>
      simp only [Workshop.perform]
      split
      case isFalse => exact served
      case isTrue =>
        simp only [Scheduler.onTimer]
        split
        case isTrue active => exact fun _ => .inr active
        case isFalse => simp [Served, take]
  | firstStep index =>
      rcases workshop.firstStep_cases index with ⟨request, contents, found⟩ | same
      · rw [perform_firstStep found]
        simp only [Served, take, Scheduler.step]
        split
        next => exact fun _ => .inr rfl
        next => exact served
      · rw [same]
        exact served
  | runEnds index ending =>
      rcases workshop.runEnds_cases index ending with ⟨request, contents, found⟩ | same
      · rw [perform_runEnds found]
        split
        case isTrue armed => exact fun _ => .inl ((Scheduler.settle_timer _ _ _).trans armed)
        case isFalse => simp [Served, take]
      · rw [same]
        exact served

/-- In every workshop that can be reached the pending request has something to wait for. -/
theorem served_after (moves : List (Move ρ)) : (after moves).Served :=
  kept_after Served (fun _ served move => served.perform move) nofun moves

/-- An armed timer is the one of the pending request. -/
theorem Orderly.pending_of_timer {workshop : Workshop ρ} (orderly : workshop.Orderly)
    {request : Nat} (armed : request ∈ workshop.timers) :
    workshop.scheduler.pending = some request := by
  rw [orderly.timersHeld] at armed
  split at armed
  · exact Option.mem_toList.mp armed
  · cases armed

/-- A pending request waits for its own timer or for a run. -/
theorem Orderly.timer_or_run {workshop : Workshop ρ} (orderly : workshop.Orderly)
    (served : workshop.Served) {request : Nat}
    (pending : workshop.scheduler.pending = some request) :
    workshop.timers = [request] ∨ workshop.inFlight ≠ [] := by
  rcases served (pending ▸ rfl) with armed | active
  · left
    rw [orderly.timersHeld, if_pos armed, pending, Option.toList_some]
  · right
    obtain ⟨run, active⟩ := Option.isSome_iff_exists.mp active
    exact List.ne_nil_of_mem (orderly.mem_inFlight.mpr active)

/-- Once no timer is armed and no run is in flight, every request is settled. -/
theorem Orderly.settled_of_quiet {workshop : Workshop ρ} (orderly : workshop.Orderly)
    (served : workshop.Served) (noTimer : workshop.timers = []) (noRun : workshop.inFlight = []) :
    workshop.scheduler.pending = none ∧ ∀ request < workshop.scheduler.requests.length,
      ∃ future, workshop.scheduler.future? request = some future ∧ future.isSettled = true := by
  have idle : workshop.scheduler.pending = none := by
    by_contra waiting
    obtain ⟨request, pending⟩ := Option.ne_none_iff_exists'.mp waiting
    rcases orderly.timer_or_run served pending with timer | run
    · rw [noTimer] at timer
      cases timer
    · exact run noRun
  refine ⟨idle, ?_⟩
  intro request arrived
  obtain ⟨future, found⟩ :=
    Option.isSome_iff_exists.mp (Scheduler.future?_isSome_iff.mpr arrived)
  refine ⟨future, found, ?_⟩
  by_contra unsettled
  rw [Bool.not_eq_true, Future.isSettled_eq_false] at unsettled
  subst unsettled
  rcases orderly.openHeld request (Scheduler.isOpen_iff.mpr found) with pending | ⟨run, active, -⟩
  · rw [idle] at pending
    cases pending
  · have member := orderly.mem_inFlight.mpr active
    rw [noRun] at member
    cases member

/-- A run that ends hands its place over to the request that has been waiting for it, unless that is
settled. -/
theorem Orderly.runEnds_startsNext {workshop : Workshop ρ} (orderly : workshop.Orderly)
    {index request waiting : Nat} {contents : String}
    (found : workshop.tasks[index]? = some ⟨request, contents, .running⟩)
    (noTimer : workshop.timers = []) (pending : workshop.scheduler.pending = some waiting)
    (ending : RunEnd ρ) :
    (workshop.perform (.runEnds index ending)).scheduler.pending = none ∧
      if workshop.scheduler.isOpen waiting then
        (workshop.perform (.runEnds index ending)).scheduler.active = some ⟨waiting, .created⟩ ∧
          ∃ text, workshop.scheduler.contents? waiting = some text ∧
            (workshop.perform (.runEnds index ending)).tasks =
              workshop.tasks.set index ⟨request, contents, .ended ending⟩
                ++ [⟨waiting, text, .created⟩]
      else
        (workshop.perform (.runEnds index ending)).scheduler.active = none ∧
          (workshop.perform (.runEnds index ending)).tasks =
            workshop.tasks.set index ⟨request, contents, .ended ending⟩ := by
  have unarmed : ¬ workshop.scheduler.timer = true := fun armed =>
    orderly.timer_iff.mp armed noTimer
  have different : waiting ≠ request :=
    (orderly.untried pending (List.mem_of_getElem? found)).symm
  rw [perform_runEnds found, if_neg unarmed]
  set finished := workshop.finished index request contents ending with finishedEq
  have stillPending : finished.scheduler.pending = some waiting :=
    (Scheduler.settle_pending _ _ _).trans pending
  have stillOpen : finished.scheduler.isOpen waiting = workshop.scheduler.isOpen waiting :=
    Scheduler.settle_isOpen_of_ne _ _ _ different
  refine ⟨Scheduler.startNext_pending _, ?_⟩
  rcases Scheduler.startNext_cases finished.scheduler with
    ⟨idle, -⟩ | ⟨next, chosen, handed⟩
  · cases idle.symm.trans stillPending
  · cases chosen.symm.trans stillPending
    rw [stillOpen] at handed
    rcases handed with ⟨opened, started⟩ | ⟨closed, dropped⟩
    · rw [if_pos opened, started]
      obtain ⟨text, own⟩ := Scheduler.exists_contents (orderly.pending_lt pending)
      have kept : Scheduler.contents?
          ({ finished.scheduler with pending := none, active := some ⟨waiting, .created⟩ } :
            Scheduler ρ) waiting = some text :=
        (Scheduler.settle_contents? _ _ _ _).trans own
      refine ⟨rfl, text, own, ?_⟩
      exact congrArg (finished.tasks ++ ·) (tasksOf_created kept)
    · rw [if_neg (by simp [closed]), dropped]
      exact ⟨rfl, List.append_nil _⟩

/-- The second request waits for the first run alone when that ends. -/
example :
    (after [.request "a", .timerFires 0, .firstStep 0, .request "b", .timerFires 0,
      .runEnds 0 (.answered 7)] : Workshop Nat).tasks =
      [⟨0, "a", .ended (.answered 7)⟩, ⟨1, "b", .created⟩] := by
  decide

/-- No request is lost and nothing gets stuck, whatever happens in whatever order. A pending request
waits for its timer or for a run, and an armed timer is that of the pending request. Where no timer
is armed and no run is in flight, no request is pending and all are settled. A run that ends while a
request waits for it alone starts that request in the same move, unless it is settled already. -/
theorem no_request_is_lost (moves : List (Move ρ)) :
    (∀ request, (after moves).scheduler.pending = some request →
      (after moves).timers = [request] ∨ (after moves).inFlight ≠ []) ∧
    (∀ request ∈ (after moves).timers, (after moves).scheduler.pending = some request) ∧
    ((after moves).timers = [] → (after moves).inFlight = [] →
      (after moves).scheduler.pending = none ∧
        ∀ request < (after moves).scheduler.requests.length, ∃ future,
          (after moves).scheduler.future? request = some future ∧ future.isSettled = true) ∧
    ∀ index request contents waiting ending,
      (after moves).tasks[index]? = some ⟨request, contents, .running⟩ →
      (after moves).timers = [] → (after moves).scheduler.pending = some waiting →
        (after (moves ++ [.runEnds index ending])).scheduler.pending = none ∧
          if (after moves).scheduler.isOpen waiting then
            (after (moves ++ [.runEnds index ending])).scheduler.active =
                some ⟨waiting, .created⟩ ∧
              ∃ text, (after moves).scheduler.contents? waiting = some text ∧
                (after (moves ++ [.runEnds index ending])).tasks =
                  (after moves).tasks.set index ⟨request, contents, .ended ending⟩
                    ++ [⟨waiting, text, .created⟩]
          else
            (after (moves ++ [.runEnds index ending])).scheduler.active = none ∧
              (after (moves ++ [.runEnds index ending])).tasks =
                (after moves).tasks.set index ⟨request, contents, .ended ending⟩ := by
  have orderly := orderly_after moves
  have served := served_after moves
  refine ⟨?waits, ?armed, ?quiet, ?handover⟩
  case waits => exact fun request pending => orderly.timer_or_run served pending
  case armed => exact fun request armed => orderly.pending_of_timer armed
  case quiet => exact fun noTimer noRun => orderly.settled_of_quiet served noTimer noRun
  case handover =>
    intro index request contents waiting ending found noTimer pending
    rw [after_concat]
    exact orderly.runEnds_startsNext found noTimer pending ending

end LintClient.Schedule.Workshop
