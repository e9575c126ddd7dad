import LintClient.Proofs.Schedule.Tasks

/-!
# Order in the workshop

`Orderly` says that the places of the scheduler tell the truth: the timer it holds is the one that
is armed, the run it holds is the one that is in flight, and each request is where its future says.
Every move keeps the order (`Orderly.perform`), so it holds in every workshop that can be reached.
-/

namespace LintClient.Schedule.Workshop

variable {ρ : Type}

/-- What holds in every workshop that can be reached. -/
structure Orderly (workshop : Workshop ρ) : Prop where
  /-- The armed timers are the one that the scheduler holds. -/
  timersHeld : workshop.timers =
    if workshop.scheduler.timer then workshop.scheduler.pending.toList else []
  timerWaits : workshop.scheduler.timer = true → workshop.scheduler.pending.isSome = true
  /-- The pending request is the one that came last. -/
  pendingNewest : ∀ request, workshop.scheduler.pending = some request →
    request + 1 = workshop.scheduler.requests.length
  pendingUntried : ∀ request, workshop.scheduler.pending = some request →
    ∀ task ∈ workshop.tasks, task.request < request
  /-- The runs in flight are the one that the scheduler holds. -/
  runsHeld : workshop.tasks.filterMap Task.run? = workshop.scheduler.active.toList
  activeNewest : ∀ run, workshop.scheduler.active = some run →
    ∀ task ∈ workshop.tasks, task.request ≤ run.request
  tasksOrdered : (workshop.tasks.map Task.request).Pairwise (· < ·)
  callsMade : workshop.calls = workshop.tasks.filterMap Task.call?
  textsOwn : ∀ task ∈ workshop.tasks,
    workshop.scheduler.contents? task.request = some task.contents
  /-- What a task makes of its request, its caller alone can forestall. -/
  taskFuture : ∀ task ∈ workshop.tasks,
    workshop.scheduler.future? task.request = some task.phase.outcome ∨
      workshop.scheduler.future? task.request = some .cancelled
  answersGiven : ∀ request answer,
    workshop.scheduler.future? request = some (.answered answer) →
      ∃ task ∈ workshop.tasks, task.request = request ∧ task.phase = .ended (.answered answer)
  openHeld : ∀ request, workshop.scheduler.isOpen request = true →
    workshop.scheduler.pending = some request ∨
      ∃ run, workshop.scheduler.active = some run ∧ run.request = request
  settledOnce : ∀ request, workshop.effects.count (.settled request) =
    if (workshop.scheduler.future? request).any Future.isSettled then 1 else 0

/-- A request for which there is a task has arrived. -/
theorem Orderly.task_lt {workshop : Workshop ρ} (orderly : workshop.Orderly) {task : Task ρ}
    (member : task ∈ workshop.tasks) : task.request < workshop.scheduler.requests.length := by
  have found := orderly.textsOwn task member
  simp only [Scheduler.contents?, Option.map_eq_some_iff] at found
  obtain ⟨entry, found, -⟩ := found
  exact (List.getElem?_eq_some_iff.mp found).1

/-- The pending request has arrived. -/
theorem Orderly.pending_lt {workshop : Workshop ρ} (orderly : workshop.Orderly) {request : Nat}
    (pending : workshop.scheduler.pending = some request) :
    request < workshop.scheduler.requests.length := by
  have newest := orderly.pendingNewest request pending
  omega

/-- A settlement that is told of is the first one of its request. -/
theorem count_settle {scheduler : Scheduler ρ} {effects : List Effect}
    (counted : ∀ request, effects.count (.settled request) =
      if (scheduler.future? request).any Future.isSettled then 1 else 0)
    (request : Nat) {outcome : Future ρ} (settles : outcome.isSettled = true) (other : Nat) :
    (effects ++ (scheduler.settle request outcome).2).count (.settled other) =
      if ((scheduler.settle request outcome).1.future? other).any Future.isSettled then 1
      else 0 := by
  by_cases opened : scheduler.isOpen request = true
  · rw [List.count_append, counted, Scheduler.settle_effects _ _ _ opened,
      Scheduler.settle_future? _ _ _ opened]
    by_cases same : other = request
    · subst same
      rw [Scheduler.isOpen_iff.mp opened, if_pos rfl, Option.any_some, Option.any_some, settles]
      simp [Future.isSettled]
    · simp [same, Ne.symm same]
  · rw [Scheduler.settle_of_not_isOpen _ _ _ opened, List.append_nil]
    exact counted other

/-- A workshop is orderly at its start. -/
theorem orderly_start : (start : Workshop ρ).Orderly := by
  constructor <;> simp [start, Scheduler.start, Scheduler.future?, Scheduler.isOpen]

/-- The caller may cancel any request, and one without a run may be superseded. -/
theorem Orderly.settle {workshop : Workshop ρ} (orderly : workshop.Orderly) {request : Nat}
    {outcome : Future ρ} (allowed : outcome = .cancelled ∨
      outcome = .superseded ∧ ∀ task ∈ workshop.tasks, task.request ≠ request) :
    (workshop.take (workshop.scheduler.settle request outcome)).Orderly := by
  by_cases opened : workshop.scheduler.isOpen request = true
  case neg =>
    rw [Scheduler.settle_of_not_isOpen _ _ _ opened]
    simpa [take] using orderly
  have future := Scheduler.settle_future? workshop.scheduler request outcome opened
  have settles : outcome.isSettled = true := by
    rcases allowed with rfl | ⟨rfl, -⟩ <;> rfl
  constructor
  case timersHeld => simpa [take] using orderly.timersHeld
  case timerWaits => simpa [take] using orderly.timerWaits
  case pendingNewest => simpa [take] using orderly.pendingNewest
  case pendingUntried => simpa [take] using orderly.pendingUntried
  case runsHeld => simpa [take] using orderly.runsHeld
  case activeNewest => simpa [take] using orderly.activeNewest
  case tasksOrdered => simpa [take] using orderly.tasksOrdered
  case callsMade => simpa [take] using orderly.callsMade
  case textsOwn => simpa [take] using orderly.textsOwn
  case taskFuture =>
    intro task member
    simp only [take, tasksOf_settle, List.append_nil] at member
    simp only [take, future]
    by_cases same : task.request = request
    · rw [if_pos same]
      rcases allowed with rfl | ⟨-, untried⟩
      · exact .inr rfl
      · exact absurd same (untried task member)
    · rw [if_neg same]
      exact orderly.taskFuture task member
  case answersGiven =>
    intro other answer answered
    simp only [take, future] at answered
    split at answered
    · rcases allowed with rfl | ⟨rfl, -⟩ <;> cases answered
    · simpa [take] using orderly.answersGiven other answer answered
  case openHeld =>
    intro other stillOpen
    simp only [take, Scheduler.isOpen_iff, future] at stillOpen
    split at stillOpen
    · rw [Option.some.injEq] at stillOpen
      subst stillOpen
      cases settles
    · simpa [take] using orderly.openHeld other (Scheduler.isOpen_iff.mpr stillOpen)
  case settledOnce => exact count_settle orderly.settledOnce request settles

/-- The pending request and its timer may change places, as long as no open request is dropped. -/
theorem Orderly.replace {workshop : Workshop ρ} (orderly : workshop.Orderly)
    {pending : Option Nat} {timer : Bool} {timers : List Nat}
    (held : timers = if timer then pending.toList else [])
    (waits : timer = true → pending.isSome = true)
    (known : ∀ request, pending = some request → workshop.scheduler.pending = some request)
    (kept : ∀ request, workshop.scheduler.pending = some request →
      workshop.scheduler.isOpen request = true → pending = some request) :
    ({ workshop with
        scheduler := { workshop.scheduler with pending := pending, timer := timer }
        timers := timers } : Workshop ρ).Orderly where
  timersHeld := held
  timerWaits := waits
  pendingNewest request there := orderly.pendingNewest request (known request there)
  pendingUntried request there := orderly.pendingUntried request (known request there)
  runsHeld := orderly.runsHeld
  activeNewest := orderly.activeNewest
  tasksOrdered := orderly.tasksOrdered
  callsMade := orderly.callsMade
  textsOwn := orderly.textsOwn
  taskFuture := orderly.taskFuture
  answersGiven := orderly.answersGiven
  openHeld := by
    intro request opened
    rcases orderly.openHeld request opened with there | active
    · exact .inl (kept request there opened)
    · exact .inr active
  settledOnce := orderly.settledOnce

/-- A pending request that is settled may be dropped with its timer. -/
theorem Orderly.drop {workshop : Workshop ρ} (orderly : workshop.Orderly)
    (closed : ∀ request, workshop.scheduler.pending = some request →
      ¬ workshop.scheduler.isOpen request = true) :
    ({ workshop with
        scheduler := { workshop.scheduler with pending := none, timer := false }
        timers := [] } : Workshop ρ).Orderly := by
  apply orderly.replace
  case held => rfl
  case waits => exact nofun
  case known => exact nofun
  case kept =>
    intro request pending opened
    exact absurd opened (closed request pending)

/-- The timer fires, and the pending request waits for the run in flight. -/
theorem Orderly.disarm {workshop : Workshop ρ} (orderly : workshop.Orderly) :
    ({ workshop with
        scheduler := { workshop.scheduler with timer := false }
        timers := [] } : Workshop ρ).Orderly := by
  apply orderly.replace
  case held => rfl
  case waits => exact nofun
  case known => exact fun request pending => pending
  case kept => exact fun request pending opened => pending

/-- The scheduler stops the only timer there is. -/
theorem Orderly.timersLeft_eq {workshop : Workshop ρ} (orderly : workshop.Orderly) :
    workshop.timersLeft = [] := by
  rw [timersLeft, orderly.timersHeld]
  cases workshop.scheduler.timer with
  | false => rfl
  | true => cases workshop.scheduler.pending <;> rfl

/-- Superseding drops the pending request and its timer. -/
theorem Orderly.supersede {workshop : Workshop ρ} (orderly : workshop.Orderly) :
    ({ workshop.take workshop.scheduler.supersede with
        timers := workshop.timersLeft } : Workshop ρ).Orderly := by
  rw [orderly.timersLeft_eq]
  cases pending : workshop.scheduler.pending with
  | none =>
      rw [Scheduler.supersede_of_idle _ pending]
      have dropped := orderly.drop (by simp [pending])
      simpa [take] using dropped
  | some request =>
      rw [Scheduler.supersede_of_pending _ pending]
      have untried : ∀ task ∈ workshop.tasks, task.request ≠ request := by
        intro task member
        exact Nat.ne_of_lt (orderly.pendingUntried request pending task member)
      have settled := orderly.settle (.inr ⟨rfl, untried⟩)
      have dropped := settled.drop (by
        intro other stillPending
        simp only [take, Scheduler.settle_pending, pending, Option.some.injEq] at stillPending
        subst stillPending
        exact Scheduler.not_isOpen_settle _ _ rfl)
      simpa [take] using dropped

/-- A new request takes the pending slot and arms a timer. -/
theorem Orderly.admit {workshop : Workshop ρ} (orderly : workshop.Orderly)
    (idle : workshop.scheduler.pending = none) (contents : String) :
    ({ workshop with
        scheduler :=
          { workshop.scheduler with
            requests := workshop.scheduler.requests ++ [⟨contents, .unsettled⟩]
            pending := some workshop.scheduler.requests.length
            timer := true }
        timers := [workshop.scheduler.requests.length] } : Workshop ρ).Orderly := by
  have future := Scheduler.future?_admit workshop.scheduler ⟨contents, .unsettled⟩
    (some workshop.scheduler.requests.length) true
  have known : ∀ task ∈ workshop.tasks,
      task.request ≠ workshop.scheduler.requests.length := fun task member =>
    Nat.ne_of_lt (orderly.task_lt member)
  constructor
  case timersHeld => rfl
  case timerWaits => exact fun _ => rfl
  case pendingNewest =>
    intro request pending
    simp only [Option.some.injEq] at pending
    simp [← pending]
  case pendingUntried =>
    intro request pending task member
    simp only [Option.some.injEq] at pending
    exact pending ▸ orderly.task_lt member
  case runsHeld => exact orderly.runsHeld
  case activeNewest => exact orderly.activeNewest
  case tasksOrdered => exact orderly.tasksOrdered
  case callsMade => exact orderly.callsMade
  case textsOwn =>
    intro task member
    have found := orderly.textsOwn task member
    simp only [Scheduler.contents?] at found ⊢
    rwa [List.getElem?_append_left (orderly.task_lt member)]
  case taskFuture =>
    intro task member
    rw [future, if_neg (known task member)]
    exact orderly.taskFuture task member
  case answersGiven =>
    intro request answer answered
    rw [future] at answered
    split at answered
    · cases answered
    · exact orderly.answersGiven request answer answered
  case openHeld =>
    intro request opened
    rw [Scheduler.isOpen_iff, future] at opened
    split at opened
    next same => exact .inl (by rw [same])
    next =>
      rcases orderly.openHeld request (Scheduler.isOpen_iff.mpr opened) with pending | active
      · rw [idle] at pending
        cases pending
      · exact .inr active
  case settledOnce =>
    intro request
    rw [future, orderly.settledOnce request]
    by_cases new : request = workshop.scheduler.requests.length
    · have absent : workshop.scheduler.future? request = none := by
        rw [← Option.not_isSome_iff_eq_none, Scheduler.future?_isSome_iff]
        omega
      rw [absent, if_pos new]
      rfl
    · rw [if_neg new]

/-- An open request that is handed over becomes a task, which holds the place for runs. -/
theorem Orderly.handOver {workshop : Workshop ρ} (orderly : workshop.Orderly)
    (unarmed : workshop.scheduler.timer = false) (free : workshop.scheduler.active = none)
    {request : Nat} (pending : workshop.scheduler.pending = some request)
    (opened : workshop.scheduler.isOpen request = true) :
    (workshop.take
      ({ workshop.scheduler with pending := none, active := some ⟨request, .created⟩ },
        [.created request])).Orderly := by
  obtain ⟨contents, text⟩ := Scheduler.exists_contents (orderly.pending_lt pending)
  have tasks : (workshop.take
      ({ workshop.scheduler with pending := none, active := some ⟨request, .created⟩ },
        [.created request])).tasks = workshop.tasks ++ [⟨request, contents, .created⟩] := by
    exact congrArg (workshop.tasks ++ ·) (tasksOf_created text)
  constructor
  case timersHeld => simpa [take, unarmed] using orderly.timersHeld
  case timerWaits =>
    intro armed
    exact absurd (unarmed.symm.trans armed) Bool.false_ne_true
  case pendingNewest =>
    intro other stillPending
    cases stillPending
  case pendingUntried =>
    intro other stillPending
    cases stillPending
  case runsHeld =>
    rw [tasks, List.filterMap_append, orderly.runsHeld, free]
    rfl
  case activeNewest =>
    intro run active task member
    rw [← Option.some.inj active]
    rw [tasks, List.mem_append, List.mem_singleton] at member
    rcases member with member | rfl
    · exact Nat.le_of_lt (orderly.pendingUntried request pending task member)
    · exact Nat.le_refl request
  case callsMade =>
    rw [tasks, List.filterMap_append]
    exact orderly.callsMade.trans (List.append_nil _).symm
  case tasksOrdered =>
    rw [tasks, List.map_append, List.pairwise_append]
    refine ⟨orderly.tasksOrdered, List.pairwise_singleton _ _, ?_⟩
    intro earlier member last newest
    obtain ⟨task, taskMember, rfl⟩ := List.mem_map.mp member
    rw [List.map_singleton, List.mem_singleton] at newest
    exact newest ▸ orderly.pendingUntried request pending task taskMember
  case textsOwn =>
    intro task member
    rw [tasks, List.mem_append, List.mem_singleton] at member
    rcases member with member | rfl
    · exact orderly.textsOwn task member
    · exact text
  case taskFuture =>
    intro task member
    rw [tasks, List.mem_append, List.mem_singleton] at member
    rcases member with member | rfl
    · exact orderly.taskFuture task member
    · exact .inl (Scheduler.isOpen_iff.mp opened)
  case answersGiven =>
    intro other answer answered
    obtain ⟨task, member, given⟩ := orderly.answersGiven other answer answered
    exact ⟨task, by rw [tasks]; exact List.mem_append_left _ member, given⟩
  case openHeld =>
    -- No run was in flight, so a request that is open can only have been the pending one.
    intro other stillOpen
    refine .inr ⟨⟨request, .created⟩, rfl, ?_⟩
    rcases orderly.openHeld other stillOpen with same | ⟨run, active, -⟩
    · exact Option.some.inj (pending.symm.trans same)
    · rw [free] at active
      cases active
  case settledOnce =>
    intro other
    have unchanged : (workshop.effects ++ [Effect.created request]).count (.settled other) =
        workshop.effects.count (.settled other) := by
      simp
    exact unchanged.trans (orderly.settledOnce other)

/-- The pending request is handed over when neither a timer nor a run stands in its way. -/
theorem Orderly.startNext {workshop : Workshop ρ} (orderly : workshop.Orderly)
    (unarmed : workshop.scheduler.timer = false) (free : workshop.scheduler.active = none) :
    (workshop.take workshop.scheduler.startNext).Orderly := by
  have noTimers : workshop.timers = [] := by
    simp [orderly.timersHeld, unarmed]
  rcases Scheduler.startNext_cases workshop.scheduler with
    ⟨_, same⟩ | ⟨request, pending, ⟨opened, started⟩ | ⟨closed, dropped⟩⟩
  · rw [same]
    simpa [take] using orderly
  · rw [started]
    exact orderly.handOver unarmed free pending opened
  · rw [dropped]
    have settled := orderly.drop (by
      intro other stillPending
      rw [pending, Option.some.injEq] at stillPending
      rw [← stillPending, closed]
      exact Bool.false_ne_true)
    simpa [take, ← noTimers, ← unarmed] using settled

/-- Each request has at most one task. -/
theorem Orderly.task_unique {workshop : Workshop ρ} (orderly : workshop.Orderly)
    {index other : Nat} {task otherTask : Task ρ} (found : workshop.tasks[index]? = some task)
    (otherFound : workshop.tasks[other]? = some otherTask)
    (same : task.request = otherTask.request) : index = other := by
  have ordered := List.pairwise_iff_getElem.mp orderly.tasksOrdered
  obtain ⟨bound, rfl⟩ := List.getElem?_eq_some_iff.mp found
  obtain ⟨otherBound, rfl⟩ := List.getElem?_eq_some_iff.mp otherFound
  rcases Nat.lt_trichotomy index other with before | equal | behind
  · have less := ordered index other (by simpa using bound) (by simpa using otherBound) before
    simp only [List.getElem_map] at less
    omega
  · exact equal
  · have less := ordered other index (by simpa using otherBound) (by simpa using bound) behind
    simp only [List.getElem_map] at less
    omega

/-- A task that is not over is the run that the scheduler holds. -/
theorem Orderly.active_of_run {workshop : Workshop ρ} (orderly : workshop.Orderly) {task : Task ρ}
    (member : task ∈ workshop.tasks) {run : ActiveRun} (inFlight : task.run? = some run) :
    workshop.scheduler.active = some run := by
  have held : run ∈ workshop.tasks.filterMap Task.run? :=
    List.mem_filterMap.mpr ⟨task, member, inFlight⟩
  rw [orderly.runsHeld] at held
  exact Option.mem_toList.mp held

/-- The run that the scheduler holds is the task that was created last. -/
theorem Orderly.last_of_run {workshop : Workshop ρ} (orderly : workshop.Orderly) {index : Nat}
    {task : Task ρ} (found : workshop.tasks[index]? = some task) {run : ActiveRun}
    (inFlight : task.run? = some run) : index + 1 = workshop.tasks.length := by
  have own := Task.request_of_run? inFlight
  obtain ⟨bound, rfl⟩ := List.getElem?_eq_some_iff.mp found
  have active := orderly.active_of_run (List.getElem_mem bound) inFlight
  by_contra more
  have next : index + 1 < workshop.tasks.length := by omega
  have above := List.pairwise_iff_getElem.mp orderly.tasksOrdered index (index + 1)
    (by simpa using bound) (by simpa using next) (Nat.lt_succ_self index)
  have below := orderly.activeNewest run active _ (List.getElem_mem next)
  simp only [List.getElem_map] at above
  omega

section GoingOn

variable {workshop : Workshop ρ} (orderly : workshop.Orderly) {index request : Nat}
  {contents : String} {phase changed : TaskPhase ρ}
  (found : workshop.tasks[index]? = some ⟨request, contents, phase⟩)

include orderly found

/-- The pending request still has no task when one goes on. -/
theorem Orderly.untried_set {other : Nat} (pending : workshop.scheduler.pending = some other) :
    ∀ task ∈ workshop.tasks.set index ⟨request, contents, changed⟩, task.request < other := by
  intro task member
  obtain ⟨known, knownMember, same, -⟩ := exists_of_mem_set found member
  exact same ▸ orderly.pendingUntried other pending known knownMember

/-- Tasks that go on keep the texts of their requests. -/
theorem Orderly.texts_set : ∀ task ∈ workshop.tasks.set index ⟨request, contents, changed⟩,
    workshop.scheduler.contents? task.request = some task.contents := by
  intro task member
  obtain ⟨known, knownMember, same, text⟩ := exists_of_mem_set found member
  rw [← same, ← text]
  exact orderly.textsOwn known knownMember

/-- A task after one has gone on is that one, or one of another request that was there before. -/
theorem Orderly.mem_of_mem_set {task : Task ρ}
    (member : task ∈ workshop.tasks.set index ⟨request, contents, changed⟩) :
    task = ⟨request, contents, changed⟩ ∨ task ∈ workshop.tasks ∧ task.request ≠ request := by
  obtain ⟨place, there⟩ := List.mem_iff_getElem?.mp member
  by_cases same : index = place
  · subst same
    rw [List.getElem?_set_self (List.getElem?_eq_some_iff.mp found).1, Option.some.injEq] at there
    exact .inl there.symm
  · rw [List.getElem?_set_ne same] at there
    refine .inr ⟨List.mem_of_getElem? there, ?_⟩
    intro equal
    exact same (orderly.task_unique found there equal.symm)

end GoingOn

/-- The request of a run that ends has the outcome of the run, or what its caller chose. -/
theorem Orderly.future_of_end {workshop : Workshop ρ} (orderly : workshop.Orderly)
    {request : Nat} {contents : String}
    (member : ⟨request, contents, .running⟩ ∈ workshop.tasks) (ending : RunEnd ρ) :
    (workshop.scheduler.settle request ending.outcome).1.future? request = some ending.outcome ∨
      (workshop.scheduler.settle request ending.outcome).1.future? request =
        some .cancelled := by
  by_cases opened : workshop.scheduler.isOpen request = true
  · exact .inl (by rw [Scheduler.settle_future? _ _ _ opened, if_pos rfl])
  · -- Nobody but its caller can have settled the request of a run that goes on.
    rw [Scheduler.settle_of_not_isOpen _ _ _ opened]
    refine .inr ((orderly.taskFuture _ member).resolve_left ?_)
    exact fun unsettled => opened (Scheduler.isOpen_iff.mpr unsettled)

/-- The task that holds the place for runs takes its first step. -/
theorem Orderly.firstStep {workshop : Workshop ρ} (orderly : workshop.Orderly)
    {index request : Nat} {contents : String}
    (found : workshop.tasks[index]? = some ⟨request, contents, .created⟩) :
    ({ workshop.take (workshop.scheduler.step .runStarts) with
        tasks := workshop.tasks.set index ⟨request, contents, .running⟩
        calls := workshop.calls ++ [(request, contents)] } : Workshop ρ).Orderly := by
  have member := List.mem_of_getElem? found
  have active := orderly.active_of_run member rfl
  have stepped : workshop.scheduler.step .runStarts =
      ({ workshop.scheduler with active := some ⟨request, .running⟩ }, []) := by
    simp [Scheduler.step, active]
  rw [stepped]
  have runs := orderly.runsHeld
  rw [active] at runs
  constructor
  case timersHeld => exact orderly.timersHeld
  case timerWaits => exact orderly.timerWaits
  case pendingNewest => exact orderly.pendingNewest
  case pendingUntried => exact fun other pending => orderly.untried_set found pending
  case runsHeld => exact filterMap_set_only _ found rfl runs
  case activeNewest =>
    intro run held task changed
    obtain ⟨known, knownMember, same, -⟩ := exists_of_mem_set found changed
    rw [← Option.some.inj held, ← same]
    exact orderly.activeNewest _ active known knownMember
  case tasksOrdered => exact (map_request_set found).symm ▸ orderly.tasksOrdered
  case callsMade =>
    -- The task was created last, so its call comes behind all others.
    rw [orderly.callsMade]
    exact (filterMap_set_last Task.call? found (orderly.last_of_run found rfl) rfl rfl).symm
  case textsOwn => exact orderly.texts_set found
  case taskFuture =>
    intro task changed
    rcases List.mem_or_eq_of_mem_set changed with known | rfl
    · exact orderly.taskFuture task known
    · have future := orderly.taskFuture _ member
      exact future
  case answersGiven =>
    intro other answer answered
    obtain ⟨task, known, same, gone⟩ := orderly.answersGiven other answer answered
    exact ⟨task, mem_set_of_phase_ne found known (by simp [gone]), same, gone⟩
  case openHeld =>
    intro other opened
    rcases orderly.openHeld other opened with pending | ⟨run, held, same⟩
    · exact .inl pending
    · rw [active, Option.some.injEq] at held
      exact .inr ⟨_, rfl, by rw [← same, ← held]⟩
  case settledOnce =>
    intro other
    have unchanged : (workshop.effects ++ []).count (Effect.settled other) =
        workshop.effects.count (.settled other) := by
      rw [List.append_nil]
    exact unchanged.trans (orderly.settledOnce other)

/-- The run that is over settles its request, unless the caller was first, and frees its place. -/
theorem Orderly.finish {workshop : Workshop ρ} (orderly : workshop.Orderly)
    {index request : Nat} {contents : String}
    (found : workshop.tasks[index]? = some ⟨request, contents, .running⟩) (ending : RunEnd ρ) :
    (workshop.finished index request contents ending).Orderly := by
  have member := List.mem_of_getElem? found
  have active := orderly.active_of_run member rfl
  have runs := orderly.runsHeld
  rw [active] at runs
  have ended := orderly.future_of_end member ending
  have others : ∀ other, other ≠ request →
      (workshop.scheduler.settle request ending.outcome).1.future? other =
        workshop.scheduler.future? other := fun other different =>
    Scheduler.settle_future?_of_ne _ _ _ different
  constructor
  case timersHeld => simpa [finished] using orderly.timersHeld
  case timerWaits => simpa [finished] using orderly.timerWaits
  case pendingNewest => simpa [finished] using orderly.pendingNewest
  case pendingUntried =>
    intro other pending
    exact orderly.untried_set found ((Scheduler.settle_pending _ _ _).symm.trans pending)
  case runsHeld => exact filterMap_set_only _ found rfl runs
  case activeNewest =>
    intro run held
    cases held
  case callsMade =>
    have unchanged :
        (workshop.tasks.set index ⟨request, contents, .ended ending⟩).filterMap Task.call? =
          workshop.tasks.filterMap Task.call? := filterMap_set_same _ found rfl
    exact orderly.callsMade.trans unchanged.symm
  case tasksOrdered => exact (map_request_set found).symm ▸ orderly.tasksOrdered
  case textsOwn =>
    intro task changed
    exact (Scheduler.settle_contents? _ _ _ _).trans (orderly.texts_set found task changed)
  case taskFuture =>
    intro task changed
    rcases orderly.mem_of_mem_set found changed with rfl | ⟨there, different⟩
    · exact ended
    · have known := orderly.taskFuture task there
      rw [← others task.request different] at known
      exact known
  case answersGiven =>
    intro other answer answered
    by_cases same : other = request
    · subst same
      refine ⟨⟨other, contents, .ended ending⟩,
        List.mem_set (List.getElem?_eq_some_iff.mp found).1 _, rfl, ?_⟩
      rcases ended with outcome | cancelled
      · have equal := Option.some.inj (answered.symm.trans outcome)
        cases ending with
        | answered given => exact (Future.answered.inj equal) ▸ rfl
        | cancelled => cases equal
      · cases Option.some.inj (answered.symm.trans cancelled)
    · obtain ⟨task, known, requested, gone⟩ :=
        orderly.answersGiven other answer ((others other same).symm.trans answered)
      exact ⟨task, mem_set_of_phase_ne found known (by simp [gone]), requested, gone⟩
  case openHeld =>
    intro other opened
    have different : other ≠ request := by
      rintro rfl
      exact Scheduler.not_isOpen_settle _ _ ending.isSettled_outcome opened
    have before := (others other different).symm.trans (Scheduler.isOpen_iff.mp opened)
    rcases orderly.openHeld other (Scheduler.isOpen_iff.mpr before) with pending | ⟨run, held, same⟩
    · exact .inl ((Scheduler.settle_pending _ _ _).trans pending)
    · rw [active, Option.some.injEq] at held
      exact absurd (by rw [← same, ← held]) different
  case settledOnce =>
    exact count_settle orderly.settledOnce request ending.isSettled_outcome

/-! ## Moves -/

/-- A new request supersedes the pending one and arms the only timer. -/
theorem Orderly.perform_request {workshop : Workshop ρ} (orderly : workshop.Orderly)
    (contents : String) : (workshop.perform (.request contents)).Orderly := by
  have admitted := orderly.supersede.admit (Scheduler.supersede_pending _) contents
  simpa [Workshop.perform, Scheduler.step, take, orderly.timersLeft_eq] using admitted

/-- A timer that fires is the only one. -/
theorem Orderly.timers_of_lt {workshop : Workshop ρ} (orderly : workshop.Orderly) {timer : Nat}
    (armed : timer < workshop.timers.length) :
    timer = 0 ∧ workshop.scheduler.timer = true ∧ ∃ request,
      workshop.scheduler.pending = some request ∧ workshop.timers = [request] := by
  rw [orderly.timersHeld] at armed ⊢
  split at armed
  next held =>
    cases pending : workshop.scheduler.pending with
    | none => simp [pending] at armed
    | some request =>
        rw [pending, Option.length_toList, Option.isSome_some] at armed
        simpa [held] using armed
  next => cases armed

/-- A timer that fires hands the pending request over, or leaves it waiting for a run. -/
theorem Orderly.perform_timerFires {workshop : Workshop ρ} (orderly : workshop.Orderly)
    (timer : Nat) : (workshop.perform (.timerFires timer)).Orderly := by
  simp only [Workshop.perform]
  split
  case isFalse => exact orderly
  case isTrue armed =>
    obtain ⟨rfl, -, request, -, timers⟩ := orderly.timers_of_lt armed
    rw [timers, List.eraseIdx_cons_zero, Scheduler.onTimer]
    split
    case isTrue => simpa [take] using orderly.disarm
    case isFalse free =>
      have idle : workshop.scheduler.active = none := by
        simpa using free
      exact orderly.disarm.startNext rfl idle

/-- Every move keeps the order. -/
theorem Orderly.perform {workshop : Workshop ρ} (orderly : workshop.Orderly) (move : Move ρ) :
    (workshop.perform move).Orderly := by
  cases move with
  | request contents => exact orderly.perform_request contents
  | close => exact orderly.supersede
  | cancel request => exact orderly.settle (.inl rfl)
  | timerFires timer => exact orderly.perform_timerFires timer
  | firstStep index =>
      rcases workshop.firstStep_cases index with ⟨request, contents, found⟩ | same
      · rw [perform_firstStep found]
        exact orderly.firstStep found
      · rw [same]
        exact orderly
  | runEnds index ending =>
      rcases workshop.runEnds_cases index ending with ⟨request, contents, found⟩ | same
      · rw [perform_runEnds found]
        have finished := orderly.finish found ending
        cases armed : workshop.scheduler.timer with
        | true => exact finished
        | false => exact finished.startNext ((Scheduler.settle_timer _ _ _).trans armed) rfl
      · rw [same]
        exact orderly

/-- Every workshop that can be reached is in order. -/
theorem orderly_after (moves : List (Move ρ)) : (after moves).Orderly :=
  kept_after Orderly (fun _ orderly move => orderly.perform move) orderly_start moves

end LintClient.Schedule.Workshop
