import LintClient.Proofs.Schedule.Exclusion

/-!
# The workshop and the transition system

The transition system knows of one timer and one run, and so its events need not say which. A move
of the workshop is an event of the transition system or changes nothing, because the timer that
fires and the run that goes on are the ones that the scheduler holds. Every history without aborts
is thus a history of the workshop, and the other way round.
-/

namespace LintClient.Schedule

variable {ρ : Type}

/-- The effects of a longer history are those of its parts. -/
theorem Scheduler.run_concat (scheduler : Scheduler ρ) (events : List (Event ρ))
    (event : Event ρ) : scheduler.run (events ++ [event]) =
      (((scheduler.run events).1.step event).1,
        (scheduler.run events).2 ++ ((scheduler.run events).1.step event).2) := by
  induction events generalizing scheduler with
  | nil => simp [run]
  | cons first rest inductionHypothesis =>
      simp only [List.cons_append, run, inductionHypothesis, List.append_assoc]

namespace Workshop

/-- The move is an event of the transition system. -/
def Follows (workshop : Workshop ρ) (move : Move ρ) (event : Event ρ) : Prop :=
  (workshop.perform move).scheduler = (workshop.scheduler.step event).1 ∧
    (workshop.perform move).effects = workshop.effects ++ (workshop.scheduler.step event).2

/-- A timer that fires is the one of the scheduler. -/
theorem Orderly.follows_timerFires {workshop : Workshop ρ} (orderly : workshop.Orderly)
    {timer : Nat} (armed : timer < workshop.timers.length) :
    workshop.Follows (.timerFires timer) .timerFires := by
  obtain ⟨-, held, -⟩ := orderly.timers_of_lt armed
  simp [Follows, Workshop.perform, armed, take, Scheduler.step, held]

/-- A task that takes its first step is the run of the scheduler. -/
theorem follows_firstStep {workshop : Workshop ρ} {index request : Nat} {contents : String}
    (found : workshop.tasks[index]? = some ⟨request, contents, .created⟩) :
    workshop.Follows (.firstStep index) .runStarts := by
  rw [Follows, perform_firstStep found]
  exact ⟨rfl, rfl⟩

/-- A task that ends is the run of the scheduler. -/
theorem Orderly.follows_runEnds {workshop : Workshop ρ} (orderly : workshop.Orderly)
    {index request : Nat} {contents : String}
    (found : workshop.tasks[index]? = some ⟨request, contents, .running⟩) (ending : RunEnd ρ) :
    workshop.Follows (.runEnds index ending) (.runEnds ending) := by
  have active := orderly.active_of_run (List.mem_of_getElem? found) rfl
  simp [Follows, Workshop.perform, found, take, Scheduler.step, active]

/-- A move is an event or changes nothing. -/
theorem Orderly.exists_event {workshop : Workshop ρ} (orderly : workshop.Orderly)
    (move : Move ρ) : workshop.perform move = workshop ∨
      ∃ event, event ≠ .abort ∧ workshop.Follows move event := by
  cases move with
  | request contents => exact .inr ⟨.request contents, nofun, rfl, rfl⟩
  | close => exact .inr ⟨.close, nofun, rfl, rfl⟩
  | cancel request => exact .inr ⟨.cancel request, nofun, rfl, rfl⟩
  | timerFires timer =>
      by_cases armed : timer < workshop.timers.length
      · exact .inr ⟨.timerFires, nofun, orderly.follows_timerFires armed⟩
      · exact .inl (if_neg armed)
  | firstStep index =>
      rcases workshop.firstStep_cases index with ⟨request, contents, found⟩ | same
      · exact .inr ⟨.runStarts, nofun, follows_firstStep found⟩
      · exact .inl same
  | runEnds index ending =>
      rcases workshop.runEnds_cases index ending with ⟨request, contents, found⟩ | same
      · exact .inr ⟨.runEnds ending, nofun, orderly.follows_runEnds found ending⟩
      · exact .inl same

/-- The run that the scheduler holds is a task at some place. -/
theorem Orderly.exists_place {workshop : Workshop ρ} (orderly : workshop.Orderly)
    {request : Nat} {phase : RunPhase}
    (active : workshop.scheduler.active = some ⟨request, phase⟩) :
    ∃ (index : Nat) (contents : String), (phase = .created ∧
        workshop.tasks[index]? = some ⟨request, contents, .created⟩) ∨
      phase = .running ∧ workshop.tasks[index]? = some ⟨request, contents, .running⟩ := by
  obtain ⟨⟨own, contents, progress⟩, member, running⟩ := orderly.exists_task active
  obtain ⟨index, found⟩ := List.mem_iff_getElem?.mp member
  refine ⟨index, contents, ?_⟩
  cases progress with
  | created =>
      cases running
      exact .inl ⟨rfl, found⟩
  | running =>
      cases running
      exact .inr ⟨rfl, found⟩
  | ended => cases running

/-- An event that is no abort is a move or changes nothing. -/
theorem Orderly.exists_move {workshop : Workshop ρ} (orderly : workshop.Orderly)
    {event : Event ρ} (calm : event ≠ .abort) :
    workshop.scheduler.step event = (workshop.scheduler, []) ∨
      ∃ move, workshop.Follows move event := by
  cases event with
  | request contents => exact .inr ⟨.request contents, rfl, rfl⟩
  | close => exact .inr ⟨.close, rfl, rfl⟩
  | cancel request => exact .inr ⟨.cancel request, rfl, rfl⟩
  | timerFires =>
      by_cases held : workshop.scheduler.timer = true
      · have armed := List.length_pos_iff.mpr (orderly.timer_iff.mp held)
        exact .inr ⟨.timerFires 0, orderly.follows_timerFires armed⟩
      · exact .inl (if_neg held)
  | runStarts =>
      simp only [Scheduler.step]
      split
      next request active =>
        obtain ⟨index, contents, ⟨-, found⟩ | ⟨created, -⟩⟩ := orderly.exists_place active
        · exact .inr ⟨.firstStep index, follows_firstStep found⟩
        · cases created
      next => exact .inl rfl
  | runEnds ending =>
      simp only [Scheduler.step]
      split
      next request active =>
        obtain ⟨index, contents, ⟨created, -⟩ | ⟨-, found⟩⟩ := orderly.exists_place active
        · cases created
        · exact .inr ⟨.runEnds index ending, orderly.follows_runEnds found ending⟩
      next => exact .inl rfl
  | abort => exact absurd rfl calm

/-- The workshop has come to what the events come to. -/
def Matches (workshop : Workshop ρ) (events : List (Event ρ)) : Prop :=
  Scheduler.start.run events = (workshop.scheduler, workshop.effects)

/-- Moves and events that match still match after a move that is an event. -/
theorem Matches.concat {workshop : Workshop ρ} {events : List (Event ρ)}
    (same : workshop.Matches events) {move : Move ρ} {event : Event ρ}
    (follows : workshop.Follows move event) :
    (workshop.perform move).Matches (events ++ [event]) := by
  rw [Matches, Scheduler.run_concat, same, follows.1, follows.2]

/-- What the workshop comes to, the transition system comes to without aborts. -/
theorem exists_events (moves : List (Move ρ)) : ∃ events : List (Event ρ),
    .abort ∉ events ∧ (after moves).Matches events := by
  induction moves using List.reverseRecOn with
  | nil => exact ⟨[], List.not_mem_nil, rfl⟩
  | append_singleton moves move inductionHypothesis =>
      obtain ⟨events, calm, same⟩ := inductionHypothesis
      rw [after_concat]
      rcases (orderly_after moves).exists_event move with unchanged | ⟨event, noAbort, follows⟩
      · exact ⟨events, calm, unchanged.symm ▸ same⟩
      · exact ⟨events ++ [event], by simp [calm, noAbort.symm], same.concat follows⟩

/-- What the transition system comes to without aborts, the workshop comes to. -/
theorem exists_moves {events : List (Event ρ)} (calm : .abort ∉ events) :
    ∃ moves, (after moves).Matches events := by
  induction events using List.reverseRecOn with
  | nil => exact ⟨[], rfl⟩
  | append_singleton events event inductionHypothesis =>
      rw [List.mem_append, List.mem_singleton, not_or] at calm
      obtain ⟨moves, same⟩ := inductionHypothesis calm.1
      rcases (orderly_after moves).exists_move (Ne.symm calm.2) with unchanged | ⟨move, follows⟩
      · refine ⟨moves, ?_⟩
        rw [Matches, Scheduler.run_concat, same, unchanged, List.append_nil]
      · refine ⟨moves ++ [move], ?_⟩
        rw [after_concat]
        exact same.concat follows

end Workshop

end LintClient.Schedule
