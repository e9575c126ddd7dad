import LintClient.Proofs.Schedule.Order

/-!
# What settles a request

A request is settled by one of four kinds of moves, and only while it is open: a newer request or
the end of the scheduler supersedes the pending one, a caller cancels, and a run ends. `Settles`
says which move settles it as what. Every settled request has such a move in its past, and no move
after that touches it or creates a run for it.
-/

namespace LintClient.Schedule.Workshop

variable {ρ : Type}

/-- The moves that settle a request which is open, and what becomes of it. -/
inductive Settles (workshop : Workshop ρ) (request : Nat) : Move ρ → Future ρ → Prop where
  | newer (contents : String) (pending : workshop.scheduler.pending = some request) :
      Settles workshop request (.request contents) .superseded
  | closed (pending : workshop.scheduler.pending = some request) :
      Settles workshop request .close .superseded
  | calledOff : Settles workshop request (.cancel request) .cancelled
  | ended {index : Nat} {contents : String} (ending : RunEnd ρ)
      (found : workshop.tasks[index]? = some ⟨request, contents, .running⟩) :
      Settles workshop request (.runEnds index ending) ending.outcome

/-! ## Requests -/

/-- A timer that fires leaves all requests. -/
theorem perform_timerFires_requests (workshop : Workshop ρ) (timer : Nat) :
    (workshop.perform (.timerFires timer)).scheduler.requests =
      workshop.scheduler.requests := by
  simp only [perform, Scheduler.onTimer]
  split
  · simp only [take]
    split
    · rfl
    · exact Scheduler.startNext_requests _
  · rfl

/-- A first step leaves all requests. -/
theorem perform_firstStep_requests (workshop : Workshop ρ) (index : Nat) :
    (workshop.perform (.firstStep index)).scheduler.requests = workshop.scheduler.requests := by
  rcases workshop.firstStep_cases index with ⟨_, _, found⟩ | same
  · rw [perform_firstStep found]
    simp only [take, Scheduler.step]
    split <;> rfl
  · rw [same]

/-- The end of a run settles its request at most. -/
theorem perform_runEnds_requests {workshop : Workshop ρ} {index request : Nat} {contents : String}
    (found : workshop.tasks[index]? = some ⟨request, contents, .running⟩) (ending : RunEnd ρ) :
    (workshop.perform (.runEnds index ending)).scheduler.requests =
      (workshop.scheduler.settle request ending.outcome).1.requests := by
  rw [perform_runEnds found]
  split
  · rfl
  · exact Scheduler.startNext_requests _

/-- What a move does to the future of a request. -/
theorem perform_future? (workshop : Workshop ρ) (move : Move ρ) (request : Nat) :
    (workshop.perform move).scheduler.future? request = workshop.scheduler.future? request ∨
      (workshop.scheduler.future? request = none ∧
        (workshop.perform move).scheduler.future? request = some .unsettled) ∨
      (workshop.scheduler.isOpen request = true ∧ ∃ future,
        (workshop.perform move).scheduler.future? request = some future ∧
          workshop.Settles request move future) := by
  cases move with
  | request contents =>
      have admitted := Scheduler.future?_admit workshop.scheduler.supersede.1
        ⟨contents, .unsettled⟩ (some workshop.scheduler.supersede.1.requests.length) true request
      change (workshop.perform (.request contents)).scheduler.future? request = _ at admitted
      rw [Scheduler.supersede_length] at admitted
      split at admitted
      next new =>
        refine .inr (.inl ⟨?_, admitted⟩)
        rw [← Option.not_isSome_iff_eq_none, Scheduler.future?_isSome_iff]
        omega
      next =>
        rcases workshop.scheduler.supersede_future? request with
          same | ⟨pending, opened, superseded⟩
        · exact .inl (admitted.trans same)
        · exact .inr (.inr ⟨opened, _, admitted.trans superseded, .newer contents pending⟩)
  | close =>
      rcases workshop.scheduler.supersede_future? request with
        same | ⟨pending, opened, superseded⟩
      · exact .inl same
      · exact .inr (.inr ⟨opened, _, superseded, .closed pending⟩)
  | cancel other =>
      by_cases opened : workshop.scheduler.isOpen other = true
      · have future := Scheduler.settle_future? workshop.scheduler other .cancelled opened request
        split at future
        next same =>
          subst same
          exact .inr (.inr ⟨opened, _, future, .calledOff⟩)
        next => exact .inl future
      · left
        simp only [perform, take, Scheduler.step]
        rw [Scheduler.settle_of_not_isOpen _ _ _ opened]
  | timerFires timer =>
      exact .inl (Scheduler.future?_congr (workshop.perform_timerFires_requests timer) request)
  | firstStep index =>
      exact .inl (Scheduler.future?_congr (workshop.perform_firstStep_requests index) request)
  | runEnds index ending =>
      rcases workshop.runEnds_cases index ending with ⟨own, contents, found⟩ | same
      · rw [Scheduler.future?_congr (perform_runEnds_requests found ending)]
        by_cases opened : workshop.scheduler.isOpen own = true
        · have future :=
            Scheduler.settle_future? workshop.scheduler own ending.outcome opened request
          split at future
          next same =>
            subst same
            exact .inr (.inr ⟨opened, _, future, .ended ending found⟩)
          next => exact .inl future
        · rw [Scheduler.settle_of_not_isOpen _ _ _ opened]
          exact .inl rfl
      · rw [same]
        exact .inl rfl

/-- A move leaves the text of every request. -/
theorem perform_contents? {workshop : Workshop ρ} {request : Nat} {text : String}
    (found : workshop.scheduler.contents? request = some text) (move : Move ρ) :
    (workshop.perform move).scheduler.contents? request = some text := by
  cases move with
  | request contents =>
      have kept := (workshop.scheduler.supersede_contents? request).trans found
      simp only [perform, take, Scheduler.step, Scheduler.contents?,
        Option.map_eq_some_iff] at kept ⊢
      obtain ⟨entry, there, own⟩ := kept
      refine ⟨entry, ?_, own⟩
      rw [List.getElem?_append_left (List.getElem?_eq_some_iff.mp there).1, there]
  | close => exact (workshop.scheduler.supersede_contents? request).trans found
  | cancel other => exact (workshop.scheduler.settle_contents? other .cancelled request).trans found
  | timerFires timer =>
      rw [Scheduler.contents?_congr (workshop.perform_timerFires_requests timer), found]
  | firstStep index =>
      rw [Scheduler.contents?_congr (workshop.perform_firstStep_requests index), found]
  | runEnds index ending =>
      rcases workshop.runEnds_cases index ending with ⟨own, contents, there⟩ | same
      · rw [Scheduler.contents?_congr (perform_runEnds_requests there ending),
          Scheduler.settle_contents?, found]
      · rw [same, found]

/-- A move leaves a settled request as it is. -/
theorem settled_perform {workshop : Workshop ρ} {request : Nat} {future : Future ρ}
    (found : workshop.scheduler.future? request = some future)
    (settled : future.isSettled = true) (move : Move ρ) :
    (workshop.perform move).scheduler.future? request = some future := by
  rcases workshop.perform_future? move request with same | ⟨absent, -⟩ | ⟨opened, -⟩
  · exact same.trans found
  · cases absent.symm.trans found
  · cases (Scheduler.isOpen_iff.mp opened).symm.trans found
    cases settled

/-- A settled request never changes. -/
theorem settled_append {moves : List (Move ρ)} {request : Nat} {future : Future ρ}
    (found : (after moves).scheduler.future? request = some future)
    (settled : future.isSettled = true) (more : List (Move ρ)) :
    (after (moves ++ more)).scheduler.future? request = some future :=
  kept_append (fun workshop => workshop.scheduler.future? request = some future)
    (fun _ there move => settled_perform there settled move) found more

/-- A request keeps its text. -/
theorem contents?_append {moves : List (Move ρ)} {request : Nat} {text : String}
    (found : (after moves).scheduler.contents? request = some text) (more : List (Move ρ)) :
    (after (moves ++ more)).scheduler.contents? request = some text :=
  kept_append (fun workshop => workshop.scheduler.contents? request = some text)
    (fun _ there move => perform_contents? there move) found more

/-- A settled request was settled by one of the moves, when it was open. -/
theorem exists_settles {moves : List (Move ρ)} {request : Nat} {future : Future ρ}
    (found : (after moves).scheduler.future? request = some future)
    (settled : future.isSettled = true) : ∃ earlier move later,
      moves = earlier ++ move :: later ∧ (after earlier).scheduler.isOpen request = true ∧
        (after earlier).Settles request move future := by
  induction moves using List.reverseRecOn with
  | nil => cases found
  | append_singleton moves move inductionHypothesis =>
      rw [after_concat] at found
      rcases (after moves).perform_future? move request with
        same | ⟨-, unsettled⟩ | ⟨opened, outcome, changed, settles⟩
      · obtain ⟨earlier, cause, later, rfl, opened, settles⟩ :=
          inductionHypothesis (same.symm.trans found)
        exact ⟨earlier, cause, later ++ [move], by simp, opened, settles⟩
      · cases unsettled.symm.trans found
        cases settled
      · cases changed.symm.trans found
        exact ⟨moves, move, [], rfl, opened, settles⟩

/-! ## Which runs are created -/

/-- Handing over creates a run for an open request, or none. -/
theorem mem_tasksOf_startNext {scheduler next : Scheduler ρ} {task : Task ρ}
    (member : task ∈ tasksOf next scheduler.startNext.2) :
    scheduler.isOpen task.request = true := by
  rcases Scheduler.startNext_cases scheduler with
    ⟨-, same⟩ | ⟨request, -, ⟨opened, started⟩ | ⟨-, dropped⟩⟩
  · rw [same] at member
    cases member
  · rw [started] at member
    simp only [tasksOf, List.filterMap_cons, List.filterMap_nil, List.mem_singleton] at member
    rwa [member]
  · rw [dropped] at member
    cases member

/-- A move creates runs for open requests alone. -/
theorem perform_task {workshop : Workshop ρ} {move : Move ρ} {task : Task ρ}
    (member : task ∈ (workshop.perform move).tasks) :
    (∃ known ∈ workshop.tasks, known.request = task.request) ∨
      workshop.scheduler.isOpen task.request = true := by
  cases move with
  | request contents =>
      simp only [perform, take, Scheduler.step, tasksOf_supersede, List.append_nil] at member
      exact .inl ⟨task, member, rfl⟩
  | close =>
      simp only [perform, take, Scheduler.step, tasksOf_supersede, List.append_nil] at member
      exact .inl ⟨task, member, rfl⟩
  | cancel request =>
      simp only [perform, take, Scheduler.step, tasksOf_settle, List.append_nil] at member
      exact .inl ⟨task, member, rfl⟩
  | timerFires timer =>
      simp only [perform, Scheduler.onTimer] at member
      split at member
      · simp only [take, List.mem_append] at member
        rcases member with known | new
        · exact .inl ⟨task, known, rfl⟩
        · split at new
          · cases new
          · have opened := mem_tasksOf_startNext new
            exact .inr opened
      · exact .inl ⟨task, member, rfl⟩
  | firstStep index =>
      rcases workshop.firstStep_cases index with ⟨request, contents, found⟩ | same
      · rw [perform_firstStep found] at member
        obtain ⟨known, there, own, -⟩ := exists_of_mem_set found member
        exact .inl ⟨known, there, own⟩
      · rw [same] at member
        exact .inl ⟨task, member, rfl⟩
  | runEnds index ending =>
      rcases workshop.runEnds_cases index ending with ⟨request, contents, found⟩ | same
      · have kept : task ∈ (workshop.finished index request contents ending).tasks →
            ∃ known ∈ workshop.tasks, known.request = task.request := by
          intro changed
          obtain ⟨known, there, own, -⟩ := exists_of_mem_set found changed
          exact ⟨known, there, own⟩
        rw [perform_runEnds found] at member
        split at member
        · exact .inl (kept member)
        · rcases List.mem_append.mp member with changed | new
          · exact .inl (kept changed)
          · have opened := mem_tasksOf_startNext new
            exact .inr (Scheduler.isOpen_of_settle _ _ _ opened ending.isSettled_outcome)
      · rw [same] at member
        exact .inl ⟨task, member, rfl⟩

/-- A request that was settled before its turn came never gets a run. -/
theorem untried_append {moves : List (Move ρ)} {request : Nat} {future : Future ρ}
    (found : (after moves).scheduler.future? request = some future)
    (settled : future.isSettled = true)
    (untried : ∀ task ∈ (after moves).tasks, task.request ≠ request) (more : List (Move ρ)) :
    ∀ task ∈ (after (moves ++ more)).tasks, task.request ≠ request := by
  refine (kept_append (fun workshop => workshop.scheduler.future? request = some future ∧
    ∀ task ∈ workshop.tasks, task.request ≠ request) ?_ ⟨found, untried⟩ more).2
  rintro workshop ⟨there, noTask⟩ move
  refine ⟨settled_perform there settled move, ?_⟩
  rintro task member rfl
  rcases perform_task member with ⟨known, knownMember, own⟩ | opened
  · exact noTask known knownMember own
  · cases (Scheduler.isOpen_iff.mp opened).symm.trans there
    cases settled

end LintClient.Schedule.Workshop
