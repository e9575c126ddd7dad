import LintClient.Proofs.Schedule.Clock
import Mathlib.Algebra.Order.Group.Int

/-!
# When requests are handed over

A request that nobody drops or cancels is handed over exactly when its timer is due, or, if a run is
in flight then, exactly when that run ends. `Scheduled` is the invariant that carries this: the
pending request has its timer armed for the end of its debounce interval, or that time has come.
-/

namespace LintClient.Schedule.TimedWorkshop

variable {τ ρ : Type}

/-- The request is pending, and its timer is due at a time or is over since then. -/
structure Scheduled [LE τ] (timed : TimedWorkshop τ ρ) (request : Nat) (due : τ) : Prop where
  pending : timed.workshop.scheduler.pending = some request
  ahead : timed.workshop.scheduler.timer = true → timed.due = [due]
  passed : timed.workshop.scheduler.timer = false → due ≤ timed.now

/-! ## The pending request -/

section Scheduled

variable {timed : TimedWorkshop τ ρ} {request : Nat} {due : τ}

/-- A timer that fires at its time fires exactly at the end of the debounce interval. -/
theorem Scheduled.fires_when_due [PartialOrder τ] (scheduled : timed.Scheduled request due)
    (orderly : timed.workshop.Orderly) {time : τ}
    (punctual : timed.Punctual (time, .timerFires 0)) (armed : timed.workshop.timers = [request]) :
    time = due := by
  have held : timed.workshop.scheduler.timer = true := by
    rw [orderly.timer_iff, armed]
    exact List.cons_ne_nil _ _
  have only := scheduled.ahead held
  refine le_antisymm (punctual.notMissed due ?_) (punctual.notEarly due ?_)
  · simp [only]
  · simp [firing?, only]

/-- A move that drops nothing and fires no timer leaves all due times. -/
theorem perform_due [Add τ] {debounce time : τ} {move : Move ρ} (calm : move.drops = false)
    (unarmed : ∀ timer, move = .timerFires timer → timed.due.length ≤ timer) :
    (timed.perform debounce (time, move)).due = timed.due := by
  cases move with
  | request contents => cases calm
  | close => cases calm
  | timerFires timer => exact List.eraseIdx_of_length_le (unarmed timer rfl)
  | cancel other => rfl
  | firstStep index => rfl
  | runEnds index ending => rfl

/-- A move that drops nothing keeps the schedule of the request, as long as it is pending. -/
theorem Scheduled.perform [Add τ] [PartialOrder τ] {debounce : τ}
    (scheduled : timed.Scheduled request due) (orderly : timed.workshop.Orderly)
    (dueTimes : timed.due.length = timed.workshop.timers.length) {moment : τ × Move ρ}
    (punctual : timed.Punctual moment) (calm : moment.2.drops = false)
    (pending : (timed.workshop.perform moment.2).scheduler.pending = some request) :
    (timed.perform debounce moment).Scheduled request due := by
  obtain ⟨time, move⟩ := moment
  cases orderly.calmMove scheduled.pending calm with
  | leaves _ timer unarmed =>
      have same : (timed.perform debounce (time, move)).due = timed.due :=
        perform_due calm (fun timer fires => dueTimes.trans_le (unarmed timer fires))
      refine ⟨pending, ?_, ?_⟩
      · intro held
        rw [same]
        exact scheduled.ahead (timer.symm.trans held)
      · intro fired
        exact le_trans (scheduled.passed (timer.symm.trans fired)) punctual.forward
  | comesToWait run fires armed _ _ fired =>
      cases fires
      refine ⟨pending, ?_, ?_⟩
      · intro held
        cases fired.symm.trans held
      · intro _
        exact (scheduled.fires_when_due orderly punctual armed).ge
  | startsWhenDue _ _ _ taken => cases taken.symm.trans pending
  | startsAfterRun _ _ _ _ _ _ _ taken => cases taken.symm.trans pending

end Scheduled

section Since

variable [Add τ] [PartialOrder τ] {debounce origin : τ} {before between : List (τ × Move ρ)}
  {arrival : τ} {contents : String}

/-- A new request is pending, and its timer is due after the debounce interval. -/
theorem scheduled_request (before : List (τ × Move ρ)) (arrival : τ) (contents : String) :
    (after debounce origin (before ++ [(arrival, .request contents)])).Scheduled
      (after debounce origin before).workshop.scheduler.requests.length (arrival + debounce) := by
  rw [after_concat]
  refine ⟨?pending, ?ahead, nofun⟩
  case pending => simp [perform, Workshop.perform, Workshop.take, Scheduler.step]
  case ahead =>
    intro _
    simp [perform, dueLeft_eq_nil]

omit [PartialOrder τ] in
/-- A request that has arrived stays known. -/
theorem known_append {earlier : List (τ × Move ρ)} {request : Nat}
    (known : request < (after debounce origin earlier).workshop.scheduler.requests.length)
    (more : List (τ × Move ρ)) :
    request < (after debounce origin (earlier ++ more)).workshop.scheduler.requests.length := by
  obtain ⟨text, found⟩ := Scheduler.exists_contents known
  rw [after_workshop] at found ⊢
  have stillThere := Workshop.contents?_append found (more.map Prod.snd)
  simp only [Scheduler.contents?, Option.map_eq_some_iff] at stillThere
  obtain ⟨entry, there, -⟩ := stillThere
  rw [List.map_append]
  exact (List.getElem?_eq_some_iff.mp there).1

omit [PartialOrder τ] in
/-- A request is known from its arrival on. -/
theorem known_since (debounce origin : τ) (before between : List (τ × Move ρ)) (arrival : τ)
    (contents : String) :
    (after debounce origin before).workshop.scheduler.requests.length <
      (after debounce origin (before ++ (arrival, .request contents) :: between)
        ).workshop.scheduler.requests.length := by
  rw [List.append_cons]
  refine known_append ?_ between
  rw [after_concat]
  simp [perform, Workshop.perform, Workshop.take, Scheduler.step]

/-- A request that is still pending has not been dropped since its arrival, and keeps its
schedule. -/
theorem scheduled_since
    (timely : Throughout Punctual debounce origin
      (before ++ (arrival, .request contents) :: between))
    (pending : (after debounce origin (before ++ (arrival, .request contents) :: between)
      ).workshop.scheduler.pending =
        some (after debounce origin before).workshop.scheduler.requests.length) :
    (after debounce origin (before ++ (arrival, .request contents) :: between)).Scheduled
        (after debounce origin before).workshop.scheduler.requests.length (arrival + debounce) ∧
      ∀ moment ∈ between, moment.2.drops = false := by
  induction between using List.reverseRecOn with
  | nil => exact ⟨scheduled_request before arrival contents, nofun⟩
  | append_singleton between moment inductionHypothesis =>
      rw [← List.cons_append, ← List.append_assoc] at timely pending ⊢
      obtain ⟨earlier, punctual⟩ := throughout_concat.mp timely
      have inOrder : (after debounce origin (before ++ (arrival, .request contents) :: between)
        ).workshop.Orderly := orderly _
      rw [after_concat] at pending ⊢
      have calm : moment.2.drops = false := by
        have known := known_since debounce origin before between arrival contents
        obtain ⟨time, move⟩ := moment
        cases move with
        | request newer =>
            simp only [perform, Workshop.perform, Workshop.take, Scheduler.step,
              Scheduler.supersede_length, Option.some.injEq] at pending
            omega
        | close => cases pending
        | cancel other => rfl
        | timerFires timer => rfl
        | firstStep index => rfl
        | runEnds index ending => rfl
      have pendingBefore := inOrder.pending_of_calm calm pending
      obtain ⟨scheduled, undropped⟩ := inductionHypothesis earlier pendingBefore
      refine ⟨scheduled.perform inOrder (due_length _) punctual calm pending, ?_⟩
      intro other member
      rcases List.mem_append.mp member with known | last
      · exact undropped other known
      · rwa [List.mem_singleton.mp last]

end Since

/-! ## Handing over -/

/-- Where a request is that nobody has dropped or cancelled, with the time at which its timer is
due. -/
inductive OnTime [Add τ] [LE τ] (debounce origin due : τ) (request : Nat)
    (history : List (τ × Move ρ)) : Prop where
  /-- Its timer is armed, and its time has not passed. -/
  | armed
      (waits : (after debounce origin history).workshop.Waits request)
      (timer : (after debounce origin history).workshop.timers = [request])
      (early : (after debounce origin history).now ≤ due)
  /-- Its timer fired when it was due, while a run was in flight, which still is. -/
  | waiting (earlier later : List (τ × Move ρ)) (run : ActiveRun) (phase : RunPhase)
      (split : history = earlier ++ (due, .timerFires 0) :: later)
      (before : run ∈ (after debounce origin earlier).workshop.inFlight)
      (still : ⟨run.request, phase⟩ ∈ (after debounce origin history).workshop.inFlight)
      (waits : (after debounce origin history).workshop.Waits request)
      (unarmed : (after debounce origin history).workshop.timers = [])
  /-- Its timer fired when it was due, while no run was in flight, and it was handed over then. -/
  | startedWhenDue (earlier later : List (τ × Move ρ))
      (split : history = earlier ++ (due, .timerFires 0) :: later)
      (idle : (after debounce origin earlier).workshop.inFlight = [])
      (handed : (after debounce origin earlier).workshop.HandsOver (.timerFires 0) request)
  /-- Its timer fired when it was due, while a run was in flight, and it was handed over when that
  run ended. -/
  | startedAfterRun (earlier between later : List (τ × Move ρ)) (run : ActiveRun) (index : Nat)
      (ending : RunEnd ρ) (contents : String) (time : τ)
      (split : history =
        earlier ++ (due, .timerFires 0) :: (between ++ (time, .runEnds index ending) :: later))
      (before : run ∈ (after debounce origin earlier).workshop.inFlight)
      (ends : (after debounce origin (earlier ++ (due, .timerFires 0) :: between)
        ).workshop.tasks[index]? = some ⟨run.request, contents, .running⟩)
      (handed : (after debounce origin (earlier ++ (due, .timerFires 0) :: between)
        ).workshop.HandsOver (.runEnds index ending) request)

section OnTime

variable [Add τ] {debounce origin due : τ} {request : Nat} {history : List (τ × Move ρ)}

/-- A request that waits after a move, as it did before. -/
theorem waits_concat {moment : τ × Move ρ}
    (waits : (after debounce origin history).workshop.Waits request)
    (spares : (after debounce origin history).Spares request moment)
    (pending : ((after debounce origin history).workshop.perform moment.2).scheduler.pending =
      some request) :
    (after debounce origin (history ++ [moment])).workshop.Waits request := by
  obtain ⟨calm, kept⟩ := spares waits
  have inOrder : (after debounce origin (history ++ [moment])).workshop.Orderly := orderly _
  rw [after_concat] at inOrder ⊢
  exact ⟨waits.isOpen_perform calm kept, fun task => inOrder.untried pending⟩

/-- Every move that spares a request keeps it on time. -/
theorem OnTime.concat [PartialOrder τ] (onTime : OnTime debounce origin due request history)
    {moment : τ × Move ρ}
    (punctual : (after debounce origin history).Punctual moment)
    (spares : (after debounce origin history).Spares request moment)
    (scheduled : (after debounce origin history).workshop.scheduler.pending = some request →
      (after debounce origin history).Scheduled request due) :
    OnTime debounce origin due request (history ++ [moment]) := by
  have inOrder : (after debounce origin history).workshop.Orderly := orderly _
  have inOrderAfter : (after debounce origin (history ++ [moment])).workshop.Orderly := orderly _
  rw [after_concat] at inOrderAfter
  cases onTime with
  | armed waits timer early =>
      have pending := inOrder.pending_of_waits waits
      have held : (after debounce origin history).workshop.scheduler.timer = true := by
        rw [inOrder.timer_iff, timer]
        exact List.cons_ne_nil _ _
      obtain ⟨time, move⟩ := moment
      cases inOrder.calmMove pending (spares waits).1 with
      | leaves stays same =>
          refine .armed (waits_concat waits spares stays) ?_ ?_
          · rw [after_concat, inOrderAfter.timersHeld]
            simp [perform, same, held, stays]
          · rw [after_concat]
            refine punctual.notMissed due ?_
            rw [(scheduled pending).ahead held]
            exact List.mem_singleton_self _
      | comesToWait run fires armed before stays fired active =>
          cases fires
          cases (scheduled pending).fires_when_due inOrder punctual armed
          refine .waiting history [] run run.phase rfl (inOrder.mem_inFlight.mpr before) ?_
            (waits_concat waits spares stays) ?_
          · rw [after_concat]
            exact inOrderAfter.mem_inFlight.mpr active
          · rw [after_concat, inOrderAfter.timersHeld]
            simp [perform, fired]
      | startsWhenDue fires armed idle taken handed =>
          cases fires
          cases (scheduled pending).fires_when_due inOrder punctual armed
          refine .startedWhenDue history [] rfl ?_ (handed waits.1)
          rw [Workshop.inFlight, inOrder.runsHeld, idle]
          rfl
      | startsAfterRun _ _ _ _ _ _ waited => cases held.symm.trans waited
  | waiting earlier later run phase split before still waits unarmed =>
      have pending := inOrder.pending_of_waits waits
      have active := inOrder.mem_inFlight.mp still
      have fired : (after debounce origin history).workshop.scheduler.timer = false := by
        rw [← Bool.not_eq_true, inOrder.timer_iff, unarmed]
        exact fun armed => armed rfl
      obtain ⟨time, move⟩ := moment
      cases inOrder.calmMove pending (spares waits).1 with
      | leaves stays same _ goesOn =>
          obtain ⟨later', stillActive⟩ := goesOn _ active fired
          refine .waiting earlier (later ++ [(time, move)]) run later' (by simp [split]) before ?_
            (waits_concat waits spares stays) ?_
          · rw [after_concat]
            exact inOrderAfter.mem_inFlight.mpr stillActive
          · rw [after_concat, inOrderAfter.timersHeld]
            simp [perform, same, fired]
      | comesToWait _ _ armed => cases unarmed.symm.trans armed
      | startsWhenDue _ armed => cases unarmed.symm.trans armed
      | startsAfterRun index ending own contents ends found _ _ handed =>
          cases ends
          have same : own = run.request := by
            have running := inOrder.active_of_run (List.mem_of_getElem? found) rfl
            cases running.symm.trans active
            rfl
          subst same
          subst split
          exact .startedAfterRun earlier later [] run index ending contents time (by simp) before
            found (handed waits.1)
  | startedWhenDue earlier later split idle handed =>
      exact .startedWhenDue earlier (later ++ [moment]) (by simp [split]) idle handed
  | startedAfterRun earlier between later run index ending contents time split before ends handed =>
      exact .startedAfterRun earlier between (later ++ [moment]) run index ending contents time
        (by simp [split]) before ends handed

end OnTime

/-! ## Calling the runner -/

section Calling

variable [Add τ] {debounce origin : τ} {request : Nat} {earlier : List (τ × Move ρ)}

/-- A run that has not taken its first step has been handed over just now. -/
theorem handsOver_of_created
    (untried : (after debounce origin earlier).workshop.Untried request)
    {between : List (τ × Move ρ)}
    (prompt : Throughout Prompt debounce origin (earlier ++ between)) {task : Task ρ}
    (member : task ∈ (after debounce origin (earlier ++ between)).workshop.tasks)
    (created : task.phase = .created) (own : task.request = request) :
    ∃ prior move later,
      between = prior ++ ((after debounce origin (earlier ++ between)).now, move) :: later ∧
        (after debounce origin (earlier ++ prior)).workshop.HandsOver move request := by
  induction between using List.reverseRecOn with
  | nil =>
      rw [List.append_nil] at member
      exact absurd own (untried task member)
  | append_singleton between moment inductionHypothesis =>
      rw [← List.append_assoc] at prompt member ⊢
      obtain ⟨promptBefore, atOnce⟩ := throughout_concat.mp prompt
      rw [after_concat] at member ⊢
      rcases (orderly (earlier ++ between)).created_cases member created with known | handed
      · obtain ⟨prior, move, later, split, handed⟩ := inductionHypothesis promptBefore known
        have same := atOnce task known created
        refine ⟨prior, move, later ++ [moment], ?_, handed⟩
        change between ++ [moment] = prior ++ (moment.1, move) :: (later ++ [moment])
        rw [same, ← List.cons_append, ← List.append_assoc, ← split]
      · exact ⟨between, moment.2, [], rfl, own ▸ handed⟩

/-- A request that has been handed over stays so. -/
theorem not_untried_append (tried : ¬ (after debounce origin earlier).workshop.Untried request)
    (more : List (τ × Move ρ)) :
    ¬ (after debounce origin (earlier ++ more)).workshop.Untried request := by
  rw [after_workshop] at tried ⊢
  rw [List.map_append]
  exact Workshop.kept_append (fun workshop => ¬ workshop.Untried request)
    (fun _ tried move => Workshop.not_untried_perform tried move) tried _

/-- As long as no time has passed since a request was handed over, the runner may still be to be
called; after that it has been called. -/
theorem called_unless_now {time : τ} {move : Move ρ} {later : List (τ × Move ρ)}
    (prompt : Throughout Prompt debounce origin (earlier ++ (time, move) :: later))
    (handed : (after debounce origin earlier).workshop.HandsOver move request) :
    (after debounce origin (earlier ++ (time, move) :: later)).now = time ∨
      ∃ call ∈ (after debounce origin (earlier ++ (time, move) :: later)).workshop.calls,
        call.1 = request := by
  have triedAt (more : List (τ × Move ρ)) :
      ¬ (after debounce origin (earlier ++ (time, move) :: more)).workshop.Untried request := by
    rw [List.append_cons]
    refine not_untried_append ?_ more
    rw [after_concat]
    exact handed.2
  obtain ⟨task, member, own⟩ := Workshop.not_untried.mp (triedAt later)
  by_cases created : task.phase = .created
  · obtain ⟨prior, other, rest, split, again⟩ :=
      handsOver_of_created handed.1 prompt member created own
    cases prior with
    | nil =>
        simp only [List.nil_append, List.cons.injEq, Prod.mk.injEq] at split
        exact .inl split.1.1.symm
    | cons first prior =>
        obtain ⟨rfl, -⟩ := List.cons.inj split
        exact absurd again.1 (triedAt prior)
  · refine .inr ⟨(task.request, task.contents), ?_, own⟩
    rw [(orderly _).callsMade]
    exact List.mem_filterMap.mpr ⟨task, member, Task.call?_eq_some.mpr ⟨rfl, created⟩⟩

end Calling

/-! ## The debounce interval -/

/-- The request was handed over at the time. -/
def HandedOver [Add τ] (debounce origin : τ) (history : List (τ × Move ρ)) (request : Nat)
    (time : τ) : Prop :=
  ∃ earlier move later, history = earlier ++ (time, move) :: later ∧
    (after debounce origin earlier).workshop.HandsOver move request

section Debounce

variable [AddZeroClass τ] [PartialOrder τ] {debounce origin : τ}
  {before later history : List (τ × Move ρ)} {arrival : τ} {contents : String}
  (arrives : history = before ++ (arrival, .request contents) :: later)
  (timely : Throughout Punctual debounce origin history)

include arrives timely

/-- A request is handed over when its debounce interval is over, and has not been dropped then. -/
theorem handed_over_late {earlier rest : List (τ × Move ρ)} {time : τ} {move : Move ρ}
    (split : history = earlier ++ (time, move) :: rest)
    (handed : (after debounce origin earlier).workshop.HandsOver move
      (after debounce origin before).workshop.scheduler.requests.length) :
    ∃ between, earlier = before ++ (arrival, .request contents) :: between ∧
      arrival + debounce ≤ time ∧ ∀ moment ∈ between, moment.2.drops = false := by
  have inOrder : (after debounce origin earlier).workshop.Orderly := orderly _
  obtain ⟨pending, calm⟩ := inOrder.handsOver handed
  have known := inOrder.pending_lt pending
  -- the request has not arrived within `before`
  have longer : ∃ between, earlier = before ++ (arrival, .request contents) :: between := by
    rw [arrives] at split
    rcases List.append_eq_append_iff.mp split with ⟨more, longer, rest'⟩ | ⟨more, shorter, -⟩
    · cases more with
      | nil =>
          rw [List.append_nil] at longer
          subst longer
          exact absurd known (Nat.lt_irrefl _)
      | cons first between =>
          obtain ⟨rfl, -⟩ := List.cons.inj rest'
          exact ⟨between, longer⟩
    · have knownBefore := known_append known more
      rw [← shorter] at knownBefore
      exact absurd knownBefore (Nat.lt_irrefl _)
  obtain ⟨between, rfl⟩ := longer
  rw [split, List.append_cons] at timely
  obtain ⟨timelyBefore, punctual⟩ := throughout_concat.mp timely.of_append
  obtain ⟨scheduled, undropped⟩ := scheduled_since timelyBefore pending
  -- it is not pending any more after the move
  have taken : (((after debounce origin (before ++ (arrival, .request contents) :: between)
      ).workshop.perform move).scheduler.pending ≠
        some (after debounce origin before).workshop.scheduler.requests.length) := by
    intro stillPending
    exact handed.2 (fun task => (inOrder.perform move).untried stillPending)
  refine ⟨between, rfl, ?_, undropped⟩
  cases inOrder.calmMove pending calm with
  | leaves stays => exact absurd stays taken
  | comesToWait _ _ _ _ stays => exact absurd stays taken
  | startsWhenDue fires armed =>
      cases fires
      exact (scheduled.fires_when_due inOrder punctual armed).ge
  | startsAfterRun _ _ _ _ _ _ waited => exact le_trans (scheduled.passed waited) punctual.forward

/-- A request that is neither dropped nor cancelled while it waits is on time. -/
theorem onTime [AddLeftMono τ] (nonnegative : 0 ≤ debounce)
    (spared : Throughout (Spares (after debounce origin before).workshop.scheduler.requests.length)
      debounce origin history) :
    OnTime debounce origin (arrival + debounce)
      (after debounce origin before).workshop.scheduler.requests.length history := by
  subst arrives
  induction later using List.reverseRecOn with
  | nil =>
      have inOrder : (after debounce origin (before ++ [(arrival, .request contents)])
        ).workshop.Orderly := orderly _
      have scheduled : (after debounce origin (before ++ [(arrival, .request contents)])).Scheduled
          (after debounce origin before).workshop.scheduler.requests.length (arrival + debounce) :=
        scheduled_request before arrival contents
      have pending := scheduled.pending
      refine .armed ⟨?opened, fun task => inOrder.untried pending⟩ ?timer ?early
      case opened =>
        rw [Scheduler.isOpen_iff, after_concat]
        simp [perform, Workshop.perform, Workshop.take, Scheduler.step, Scheduler.future?]
      case timer =>
        rw [inOrder.timersHeld, pending, after_concat]
        rfl
      case early =>
        rw [after_concat]
        exact le_add_of_nonneg_right nonnegative
  | append_singleton later moment inductionHypothesis =>
      rw [← List.cons_append, ← List.append_assoc] at timely spared ⊢
      obtain ⟨timelyBefore, punctual⟩ := throughout_concat.mp timely
      obtain ⟨sparedBefore, spares⟩ := throughout_concat.mp spared
      have before := inductionHypothesis timelyBefore sparedBefore
      exact before.concat punctual spares (fun pending => (scheduled_since timelyBefore pending).1)

end Debounce

/-- A request is never handed over before its debounce interval is over, nor after it has been
dropped. If it is neither dropped nor cancelled while it waits, it is handed over exactly at the end
of the interval, or, if a run is in flight then, exactly when that run ends. The runner is called at
the time of the handing over, provided that runs take their first steps without delay. -/
theorem handed_over_when_due [AddZeroClass τ] [PartialOrder τ] [AddLeftMono τ]
    {debounce origin : τ} (nonnegative : 0 ≤ debounce) {before later history : List (τ × Move ρ)}
    {arrival : τ} {contents : String}
    (arrives : history = before ++ (arrival, .request contents) :: later)
    (timely : Throughout Punctual debounce origin history) :
    let request := (after debounce origin before).workshop.scheduler.requests.length
    (∀ earlier time move rest, history = earlier ++ (time, move) :: rest →
      (after debounce origin earlier).workshop.HandsOver move request →
      ∃ between, earlier = before ++ (arrival, .request contents) :: between ∧
        arrival + debounce ≤ time ∧ ∀ moment ∈ between, moment.2.drops = false) ∧
    (Throughout (Spares request) debounce origin history →
      OnTime debounce origin (arrival + debounce) request history) ∧
    (Throughout Prompt debounce origin history →
      (∀ earlier time move rest, history = earlier ++ (time, move) :: rest →
        (after debounce origin earlier).workshop.CallsRunner move request →
        HandedOver debounce origin earlier request time) ∧
      ∀ time, HandedOver debounce origin history request time →
        (after debounce origin history).now = time ∨
          ∃ call ∈ (after debounce origin history).workshop.calls, call.1 = request) := by
  intro request
  refine ⟨?safe, onTime arrives timely nonnegative, fun prompt => ⟨?called, ?calls⟩⟩
  case safe =>
    intro earlier time move rest split handed
    exact handed_over_late arrives timely split handed
  case called =>
    intro earlier time move rest split called
    rw [split, List.append_cons] at prompt
    obtain ⟨promptBefore, atOnce⟩ := throughout_concat.mp prompt.of_append
    obtain ⟨index, text, found⟩ := Workshop.callsRunner_cases called
    have member := List.mem_of_getElem? found
    have untried :
        (after debounce origin ([] : List (τ × Move ρ))).workshop.Untried request := nofun
    obtain ⟨prior, handing, middle, same, handed⟩ :=
      handsOver_of_created untried promptBefore member rfl rfl
    refine ⟨prior, handing, middle, ?_, handed⟩
    rw [show time = (after debounce origin earlier).now from atOnce _ member rfl]
    exact same
  case calls =>
    rintro time ⟨earlier, move, rest, rfl, handed⟩
    exact called_unless_now prompt handed

/-- A request that arrives at 3 while a run is in flight, with its timer due at 5, is handed over
when that run ends at 7, and the runner is called then. -/
theorem handed_over_at_end_of_run :
    let before : List (Int × Move Nat) :=
      [(0, .request "first"), (2, .timerFires 0), (2, .firstStep 0)]
    let ended : List (Int × Move Nat) := before ++
      [(3, .request "second"), (5, .timerFires 0), (7, .runEnds 0 (.answered 1))]
    let history : List (Int × Move Nat) := ended ++ [(7, .firstStep 1)]
    (0 ≤ (2 : Int) ∧ Throughout Punctual 2 0 history ∧ Throughout (Spares 1) 2 0 history ∧
      Throughout Prompt 2 0 history) ∧
    (after 2 0 before).workshop.scheduler.requests.length = 1 ∧
    OnTime 2 0 (3 + 2) 1 history ∧
    HandedOver 2 0 ended 1 7 := by
  intro before ended history
  have timely : Throughout Punctual 2 0 history := by decide
  have spared : Throughout (Spares 1) 2 0 history := by decide
  have prompt : Throughout Prompt 2 0 history := by decide
  have called : (after 2 0 ended).workshop.CallsRunner (.firstStep 1) 1 := by
    unfold Workshop.CallsRunner
    decide
  obtain ⟨-, onTime, promptly⟩ := handed_over_when_due (by decide)
    (show history = before ++ (3, .request "second") :: _ from rfl) timely
  refine ⟨⟨by decide, timely, spared, prompt⟩, by decide, onTime spared, ?_⟩
  exact (promptly prompt).1 ended 7 (.firstStep 1) [] rfl called

end LintClient.Schedule.TimedWorkshop
