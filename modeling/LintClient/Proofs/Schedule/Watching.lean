import LintClient.Proofs.Schedule.Loop
import LintClient.Proofs.Schedule.Serving

/-!
# What changes for those who wait

A waiter looks whether a run is in flight, watches the run that it finds, and looks again when the
run is over, for another run may have followed. Of all that happens on the loop little concerns
those who wait. `Change` says what does, and `change_stroke` that every stroke comes to one such
change; later modules only go through its cases.
-/

namespace LintClient.Schedule

/-- The waiter for whom a callback is, and whether the callback tells of a cancellation. -/
def Callback.errand? : Callback → Option (Nat × Bool)
  | .runOver waiter cancelled => some (waiter, cancelled)
  | .waiterStep waiter => some (waiter, false)
  | .waiterCancelled waiter => some (waiter, true)
  | _ => none

/-- What a scheduler sets off is for no waiter. -/
@[simp] theorem Effect.errand?_callback (effect : Effect) : effect.callback.errand? = none := by
  cases effect <;> rfl

namespace Timeline

variable {τ ρ : Type}

/-- The callbacks in the queue that are for waiters. -/
def errands (timeline : Timeline τ ρ) : List (Nat × Bool) :=
  timeline.ready.filterMap Callback.errand?

/-- What is so whatever happens: no run has been aborted, and timers are not for waiters. -/
structure Sound (timeline : Timeline τ ρ) : Prop where
  notLost : ∀ request, timeline.scheduler.active ≠ some ⟨request, .lost⟩
  timersApart : ∀ timer ∈ timeline.timers, timer.2.errand? = none

/-- Nothing changes for those who wait. -/
structure Calm (timeline next : Timeline τ ρ) : Prop where
  waiters : next.waiters = timeline.waiters
  watchers : next.watchers = timeline.watchers
  errands : next.errands = timeline.errands
  occupied : timeline.scheduler.active.isSome = true → next.scheduler.active.isSome = true

/-- When nothing happens, nothing changes for those who wait. -/
theorem Calm.refl (timeline : Timeline τ ρ) : Calm timeline timeline :=
  ⟨rfl, rfl, rfl, id⟩

/-- What changes nothing for those who wait, twice, changes nothing for them. -/
theorem Calm.trans {timeline next final : Timeline τ ρ} (first : Calm timeline next)
    (second : Calm next final) : Calm timeline final :=
  ⟨second.waiters.trans first.waiters, second.watchers.trans first.watchers,
    second.errands.trans first.errands, second.occupied ∘ first.occupied⟩

/-! ## Events -/

end Timeline

namespace Scheduler

variable {ρ : Type}

/-- The run that is created next has not been aborted. -/
theorem startNext_not_lost (scheduler : Scheduler ρ)
    (notLost : ∀ request, scheduler.active ≠ some ⟨request, .lost⟩) (request : Nat) :
    scheduler.startNext.1.active ≠ some ⟨request, .lost⟩ := by
  rcases startNext_cases scheduler with ⟨_, same⟩ | ⟨_, _, ⟨_, started⟩ | ⟨_, dropped⟩⟩
  · rw [same]
    exact notLost request
  · rw [started]
    simp
  · rw [dropped]
    exact notLost request

/-- Only the end of a run frees the place for runs. -/
theorem step_active_isSome {scheduler : Scheduler ρ} {event : Event ρ}
    (occupied : scheduler.active.isSome = true) (goesOn : event.ending? = none) :
    (scheduler.step event).1.active.isSome = true := by
  cases event with
  | request contents => simpa [step] using occupied
  | close => simpa [step] using occupied
  | cancel request => simpa [step] using occupied
  | timerFires =>
      simp only [step, onTimer]
      rw [if_pos occupied]
      split <;> exact occupied
  | runStarts =>
      simp only [step]
      split
      · rfl
      · exact occupied
  | runEnds ending => cases goesOn
  | abort => cases goesOn

/-- Nothing but an abort makes a run be lost. -/
theorem step_not_lost {scheduler : Scheduler ρ} {event : Event ρ}
    (notLost : ∀ request, scheduler.active ≠ some ⟨request, .lost⟩) (noAbort : event ≠ .abort)
    (request : Nat) : (scheduler.step event).1.active ≠ some ⟨request, .lost⟩ := by
  cases event with
  | request contents => simpa [step] using notLost request
  | close => simpa [step] using notLost request
  | cancel called => simpa [step] using notLost request
  | timerFires =>
      simp only [step, onTimer]
      split
      · split
        · exact notLost request
        · exact startNext_not_lost { scheduler with timer := false } notLost request
      · exact notLost request
  | runStarts =>
      simp only [step]
      split
      · simp
      · exact notLost request
  | runEnds ending =>
      simp only [step]
      split
      · simp only [endRun, freePlace]
        split
        · simp
        · exact startNext_not_lost _ (by simp) request
      · exact notLost request
  | abort => exact absurd rfl noAbort

end Scheduler

namespace Timeline

variable {τ ρ : Type}

/-- An event queues no callback for a waiter. -/
theorem errands_happen (timeline : Timeline τ ρ) (event : Event ρ) :
    (timeline.happen event).errands = timeline.errands := by
  rw [happen_eq, errands, errands, List.filterMap_append, List.filterMap_map]
  have nothing : ∀ effect ∈ (timeline.scheduler.step event).2,
      (Callback.errand? ∘ Effect.callback) effect = none :=
    fun effect _ => effect.errand?_callback
  rw [List.filterMap_eq_nil_iff.mpr nothing, List.append_nil]

/-- A callback that is queued joins those for waiters, if it is for one. -/
theorem errands_soon (timeline : Timeline τ ρ) (callback : Callback) :
    (timeline.soon callback).errands = timeline.errands ++ callback.errand?.toList := by
  rw [soon, errands, errands, List.filterMap_append, List.filterMap_cons, List.filterMap_nil]
  cases callback.errand? <;> rfl

/-- An event that is no end of a run changes nothing for those who wait. -/
theorem calm_happen (timeline : Timeline τ ρ) (event : Event ρ)
    (goesOn : event.ending? = none) :
    Calm timeline (timeline.happen event) := by
  refine ⟨?_, ?_, timeline.errands_happen event, ?_⟩
  · rw [happen_eq]
  · rw [happen_eq]
  · intro occupied
    rw [happen_eq]
    exact Scheduler.step_active_isSome occupied goesOn

/-- A callback that is for no waiter changes nothing for those who wait. -/
theorem calm_soon (timeline : Timeline τ ρ) {callback : Callback}
    (notForWaiters : callback.errand? = none) : Calm timeline (timeline.soon callback) :=
  ⟨rfl, rfl, by rw [errands_soon, notForWaiters, Option.toList_none, List.append_nil], id⟩

/-- An event that is no abort keeps a timeline sound. -/
theorem Sound.happen {timeline : Timeline τ ρ} (sound : timeline.Sound) (event : Event ρ)
    (noAbort : event ≠ .abort) : (timeline.happen event).Sound := by
  rw [happen_eq]
  exact ⟨Scheduler.step_not_lost sound.notLost noAbort, sound.timersApart⟩

/-- A timer that is for no waiter keeps a timeline sound. -/
theorem Sound.later [Add τ] {timeline : Timeline τ ρ} (sound : timeline.Sound) (delay : τ)
    (callback : Callback) (notForWaiters : callback.errand? = none) :
    (timeline.later delay callback).Sound := by
  refine ⟨sound.notLost, ?_⟩
  rw [Timeline.later, List.forall_mem_append, List.forall_mem_singleton]
  exact ⟨sound.timersApart, notForWaiters⟩

/-! ## Operations -/

section Operations

variable (setting : Setting τ ρ) (timeline : Timeline τ ρ)

/-- A run that begins changes nothing for those who wait. -/
theorem calm_begun (request : Nat) : Calm timeline (timeline.begun request) := by
  obtain ⟨waiters, watchers, errands, occupied⟩ :=
    timeline.calm_happen .runStarts rfl
  exact ⟨waiters, watchers, errands, occupied⟩

/-- A run that begins keeps a timeline sound. -/
theorem Sound.begun {timeline : Timeline τ ρ} (sound : timeline.Sound) (request : Nat) :
    (timeline.begun request).Sound := by
  obtain ⟨notLost, timersApart⟩ := sound.happen .runStarts (by simp)
  exact ⟨notLost, timersApart⟩

/-- A run that ends keeps a timeline sound. -/
theorem Sound.finishRun {timeline : Timeline τ ρ} (sound : timeline.Sound) (request : Nat) :
    (timeline.finishRun setting request).Sound := by
  rw [finishRun_eq]
  obtain ⟨notLost, timersApart⟩ :=
    sound.happen (.runEnds (timeline.endingOf setting request)) (by simp)
  exact ⟨notLost, timersApart⟩

/-- A request keeps a timeline sound. -/
theorem Sound.request [Add τ] {timeline : Timeline τ ρ} (sound : timeline.Sound)
    (contents : String) (followUp : Option String) :
    (timeline.request setting contents followUp).Sound := by
  obtain ⟨notLost, timersApart⟩ := sound.happen (.request contents) (by simp)
  unfold Timeline.request
  cases setting.debounce with
  | none => exact ⟨notLost, timersApart⟩
  | some debounce =>
      obtain ⟨stillNotLost, stillApart⟩ := Sound.later ⟨notLost, timersApart⟩ debounce
        (.debounceOver timeline.scheduler.requests.length) rfl
      cases followUp <;> exact ⟨stillNotLost, stillApart⟩

/-- A run that ends sends everyone who watches it to look again, or cancels them. -/
theorem finishRun_tells (request : Nat) :
    (timeline.finishRun setting request).waiters = timeline.waiters ∧
      (timeline.finishRun setting request).watchers = [] ∧
      (timeline.finishRun setting request).errands = timeline.errands
        ++ timeline.watchers.map fun waiter =>
          (waiter, (timeline.endingOf setting request).isCancelled) := by
  rw [finishRun_eq]
  refine ⟨?_, rfl, ?_⟩
  · rw [happen_eq]
  · have own := timeline.errands_happen (.runEnds (timeline.endingOf setting request))
    rw [errands] at own
    have told : timeline.watchers.filterMap (Callback.errand? ∘ fun waiter =>
        .runOver waiter (timeline.endingOf setting request).isCancelled) =
          timeline.watchers.map fun waiter =>
            (waiter, (timeline.endingOf setting request).isCancelled) :=
      congrFun List.filterMap_eq_map' _
    rw [errands, List.filterMap_append, own, List.filterMap_map, told]

/-- A request changes nothing for those who wait. -/
theorem calm_request [Add τ] (contents : String) (followUp : Option String) :
    Calm timeline (timeline.request setting contents followUp) := by
  obtain ⟨waiters, watchers, errands, occupied⟩ :=
    timeline.calm_happen (.request contents) rfl
  unfold request
  cases setting.debounce with
  | none => exact ⟨waiters, watchers, errands, occupied⟩
  | some debounce => cases followUp <;> exact ⟨waiters, watchers, errands, occupied⟩

end Operations

/-! ## Strokes -/

/-- What stands at a place stands between what is left without it. -/
theorem exists_split_eraseIdx {α : Type} {items : List α} {place : Nat} {item : α}
    (found : items[place]? = some item) :
    ∃ before behind,
      items = before ++ item :: behind ∧ items.eraseIdx place = before ++ behind := by
  obtain ⟨bound, rfl⟩ := List.getElem?_eq_some_iff.mp found
  refine ⟨items.take place, items.drop (place + 1), ?_, List.eraseIdx_eq_take_drop_succ ..⟩
  rw [← List.drop_eq_getElem_cons bound, List.take_append_drop]

/-- The timeline when a callback has been taken out of its queue. -/
def without (timeline : Timeline τ ρ) (place : Nat) : Timeline τ ρ :=
  { timeline with ready := timeline.ready.eraseIdx place }

/-- A callback that leaves the queue takes its errand with it. -/
theorem exists_errands {timeline : Timeline τ ρ} {place : Nat} {callback : Callback}
    (found : timeline.ready[place]? = some callback) : ∃ before behind,
      timeline.errands = before ++ (callback.errand?.toList ++ behind) ∧
        (timeline.without place).errands = before ++ behind := by
  obtain ⟨before, behind, split, left⟩ := exists_split_eraseIdx found
  refine ⟨before.filterMap Callback.errand?, behind.filterMap Callback.errand?, ?_, ?_⟩
  · rw [errands, split, List.filterMap_append, List.filterMap_cons]
    cases callback.errand? <;> rfl
  · rw [errands, without, left, List.filterMap_append]

/-- To take a callback that is for no waiter changes nothing for those who wait. -/
theorem calm_without {timeline : Timeline τ ρ} {place : Nat} {callback : Callback}
    (found : timeline.ready[place]? = some callback) (notForWaiters : callback.errand? = none) :
    Calm timeline (timeline.without place) := by
  obtain ⟨before, behind, own, left⟩ := exists_errands found
  refine ⟨rfl, rfl, ?_, id⟩
  rw [left, own, notForWaiters]
  rfl

/-- To take a callback from the queue keeps a timeline sound. -/
theorem Sound.without {timeline : Timeline τ ρ} (sound : timeline.Sound) (place : Nat) :
    (timeline.without place).Sound :=
  ⟨sound.notLost, sound.timersApart⟩

/-- A run that has begun ends as was arranged for its number. -/
theorem endingOf_begun (setting : Setting τ ρ) (timeline : Timeline τ ρ) (request : Nat) :
    (timeline.begun request).endingOf setting request =
      (setting.runner timeline.runs.length (timeline.contentsOf request)).ending := by
  have runs : (timeline.begun request).runs.length - 1 = timeline.runs.length := by
    simp [begun, happen_eq]
  have requests : (timeline.scheduler.step .runStarts).1.requests =
      timeline.scheduler.requests := by
    simp only [Scheduler.step]
    split <;> rfl
  have contents : (timeline.begun request).contentsOf request = timeline.contentsOf request := by
    simp [begun, happen_eq, contentsOf, requests]
  rw [endingOf, runs, contents]

section Strokes

variable [Add τ] [OfNat τ 0] [LE τ] [DecidableLE τ]

/-- The run in flight ends in some way at a stroke: at its last step, or at its first one if it
takes no time. -/
inductive Ends (setting : Setting τ ρ) (timeline : Timeline τ ρ) : Stroke τ → RunEnd ρ → Prop
  | inTime {place request : Nat} (queued : timeline.ready[place]? = some .runStep)
      (active : timeline.scheduler.active = some ⟨request, .running⟩) :
      Ends setting timeline (.callback place) (timeline.endingOf setting request)
  | atOnce {place request : Nat} (queued : timeline.ready[place]? = some .runStep)
      (active : timeline.scheduler.active = some ⟨request, .created⟩)
      (noTime :
        (setting.runner timeline.runs.length (timeline.contentsOf request)).duration = none) :
      Ends setting timeline (.callback place)
        (setting.runner timeline.runs.length (timeline.contentsOf request)).ending

/-- What a stroke can change for those who wait. -/
inductive Change (setting : Setting τ ρ) (timeline next : Timeline τ ρ) (last : Stroke τ) : Prop
  | nothing (calm : Calm timeline next)
  | runEnds {ending : RunEnd ρ} (ends : timeline.Ends setting last ending)
      (waiters : next.waiters = timeline.waiters) (watchers : next.watchers = [])
      (errands : next.errands = timeline.errands
        ++ timeline.watchers.map fun waiter => (waiter, ending.isCancelled))
  | joins (waiters : next.waiters = timeline.waiters ++ [.waiting])
      (watchers : next.watchers = timeline.watchers)
      (errands : next.errands = timeline.errands ++ [(timeline.waiters.length, false)])
      (same : next.scheduler = timeline.scheduler)
  | passedOn {waiter : Nat} {cancelled : Bool} {before behind : List (Nat × Bool)}
      (due : timeline.errands = before ++ (waiter, cancelled) :: behind)
      (waiters : next.waiters = timeline.waiters) (watchers : next.watchers = timeline.watchers)
      (errands : next.errands = before ++ behind ++ [(waiter, cancelled)])
      (same : next.scheduler = timeline.scheduler)
  | watches {waiter : Nat} {before behind : List (Nat × Bool)}
      (due : timeline.errands = before ++ (waiter, false) :: behind)
      (occupied : timeline.scheduler.active.isSome = true)
      (waiters : next.waiters = timeline.waiters)
      (watchers : next.watchers = timeline.watchers ++ [waiter])
      (errands : next.errands = before ++ behind) (same : next.scheduler = timeline.scheduler)
  | settles {waiter : Nat} {cancelled : Bool} {before behind : List (Nat × Bool)}
      (due : timeline.errands = before ++ (waiter, cancelled) :: behind)
      (free : cancelled = false → timeline.scheduler.active = none)
      (waiters : next.waiters =
        timeline.waiters.set waiter (if cancelled then .cancelled else .done))
      (watchers : next.watchers = timeline.watchers)
      (errands : next.errands = before ++ behind) (same : next.scheduler = timeline.scheduler)

variable {setting : Setting τ ρ} {timeline : Timeline τ ρ}

variable (setting) in
/-- The stroke of a callback takes it from the queue and performs it. -/
theorem stroke_callback {place : Nat} {callback : Callback}
    (found : timeline.ready[place]? = some callback) :
    timeline.stroke setting (.callback place) =
      (timeline.without place).perform setting callback := by
  rw [stroke, found]
  rfl

/-- What a run that ends at a stroke tells those who watch it. -/
theorem Ends.tells {last : Stroke τ} {ending : RunEnd ρ}
    (ends : timeline.Ends setting last ending) :
    (timeline.stroke setting last).waiters = timeline.waiters ∧
      (timeline.stroke setting last).watchers = [] ∧
      (timeline.stroke setting last).errands = timeline.errands
        ++ timeline.watchers.map fun waiter => (waiter, ending.isCancelled) := by
  cases ends with
  | @inTime place request queued active =>
      have calm := calm_without queued rfl
      have performed : timeline.stroke setting (.callback place) =
          (timeline.without place).finishRun setting request := by
        rw [stroke_callback setting queued]
        simp [perform, without, active]
      obtain ⟨waiters, watchers, errands⟩ :=
        finishRun_tells setting (timeline.without place) request
      rw [performed]
      exact ⟨waiters, watchers, by rw [errands, calm.errands]; rfl⟩
  | @atOnce place request queued active noTime =>
      have calm := (calm_without queued rfl).trans (calm_begun _ request)
      have performed : timeline.stroke setting (.callback place) =
          ((timeline.without place).begun request).finishRun setting request := by
        have noTime : (setting.runner (timeline.without place).runs.length
          ((timeline.without place).contentsOf request)).duration = none := noTime
        have begins : (timeline.without place).perform setting .runStep =
            (timeline.without place).beginRun setting request := by
          simp [perform, without, active]
        rw [stroke_callback setting queued, begins, beginRun_eq, noTime]
      obtain ⟨waiters, watchers, errands⟩ :=
        finishRun_tells setting ((timeline.without place).begun request) request
      rw [performed]
      refine ⟨waiters.trans calm.waiters, watchers, ?_⟩
      rw [errands, calm.errands, calm.watchers, endingOf_begun]
      rfl

/-- A callback that is performed keeps a timeline sound. -/
theorem Sound.perform (sound : timeline.Sound) (callback : Callback) :
    (timeline.perform setting callback).Sound := by
  cases callback with
  | debounceOver request =>
      simp only [Timeline.perform]
      split
      · exact sound.happen .timerFires (by simp)
      · exact sound
  | runStep =>
      simp only [Timeline.perform]
      split
      next request _ =>
        rw [beginRun_eq]
        have begun := sound.begun request
        split
        · split
          · exact ⟨begun.notLost, begun.timersApart⟩
          · exact begun.later _ _ rfl
        · exact begun.finishRun setting request
      next request _ => exact sound.finishRun setting request
      next => exact sound
  | runSlept => exact ⟨sound.notLost, sound.timersApart⟩
  | settled request =>
      simp only [Timeline.perform]
      split
      · exact sound.request setting _ _
      · exact sound
  | runOver waiter cancelled => exact ⟨sound.notLost, sound.timersApart⟩
  | waiterStep waiter =>
      simp only [Timeline.perform]
      split
      · exact ⟨sound.notLost, sound.timersApart⟩
      · exact ⟨sound.notLost, sound.timersApart⟩
      · exact ⟨sound.notLost, sound.timersApart⟩
  | waiterCancelled waiter => exact ⟨sound.notLost, sound.timersApart⟩

/-- Every stroke keeps a timeline sound. -/
theorem Sound.stroke (sound : timeline.Sound) (next : Stroke τ) :
    (timeline.stroke setting next).Sound := by
  cases next with
  | callback place =>
      simp only [Timeline.stroke]
      split
      · exact (sound.without place).perform _
      · exact sound
  | timer place =>
      simp only [Timeline.stroke]
      split
      · refine ⟨sound.notLost, ?_⟩
        exact fun timer there => sound.timersApart timer (List.mem_of_mem_eraseIdx there)
      · exact sound
  | clock now => exact ⟨sound.notLost, sound.timersApart⟩
  | request contents followUp => exact sound.request setting contents followUp
  | close => exact sound.happen .close (by simp)
  | cancel request => exact sound.happen (.cancel request) (by simp)
  | waitIdle => exact ⟨sound.notLost, sound.timersApart⟩

/-- A callback that is not for a waiter changes something for those who wait only if it ends a
run. -/
theorem change_of_calm {place : Nat} {callback : Callback}
    (found : timeline.ready[place]? = some callback) (notForWaiters : callback.errand? = none)
    (sound : timeline.Sound) :
    Change setting timeline (timeline.stroke setting (.callback place)) (.callback place) := by
  have calm := calm_without found notForWaiters
  cases callback with
  | runOver => cases notForWaiters
  | waiterStep => cases notForWaiters
  | waiterCancelled => cases notForWaiters
  | debounceOver request =>
      refine .nothing ?_
      rw [stroke_callback setting found]
      simp only [Timeline.perform]
      split
      · exact calm.trans (calm_happen _ .timerFires rfl)
      · exact calm
  | runSlept =>
      refine .nothing ?_
      rw [stroke_callback setting found]
      exact calm.trans (calm_soon _ rfl)
  | settled request =>
      refine .nothing ?_
      rw [stroke_callback setting found]
      simp only [Timeline.perform]
      split
      · exact calm.trans (calm_request ..)
      · exact calm
  | runStep =>
      have performed := stroke_callback setting found
      cases active : timeline.scheduler.active with
      | none =>
          refine .nothing ?_
          have idle : (timeline.without place).perform setting .runStep =
              timeline.without place := by
            simp [Timeline.perform, Timeline.without, active]
          rw [performed, idle]
          exact calm
      | some run =>
          obtain ⟨request, phase⟩ := run
          cases phase with
          | lost => exact absurd active (sound.notLost request)
          | running =>
              have ends : timeline.Ends setting (.callback place) _ := .inTime found active
              obtain ⟨waiters, watchers, errands⟩ := ends.tells
              exact .runEnds ends waiters watchers errands
          | created =>
              cases duration : (setting.runner timeline.runs.length
                  (timeline.contentsOf request)).duration with
              | none =>
                  have ends : timeline.Ends setting (.callback place) _ :=
                    .atOnce found active duration
                  obtain ⟨waiters, watchers, errands⟩ := ends.tells
                  exact .runEnds ends waiters watchers errands
              | some time =>
                  refine .nothing ?_
                  have begins : (timeline.without place).perform setting .runStep =
                      (timeline.without place).beginRun setting request := by
                    simp [Timeline.perform, Timeline.without, active]
                  have takes : (setting.runner (timeline.without place).runs.length
                    ((timeline.without place).contentsOf request)).duration = some time := duration
                  rw [performed, begins, beginRun_eq, takes]
                  have begun := calm.trans (calm_begun (timeline.without place) request)
                  dsimp only
                  split
                  · exact begun.trans (calm_soon _ rfl)
                  · exact ⟨begun.waiters, begun.watchers, begun.errands, begun.occupied⟩

/-- A callback that is for a waiter is passed on, settles the waiter or makes it watch the run in
flight. -/
theorem change_of_errand {place : Nat} {callback : Callback} {errand : Nat × Bool}
    (found : timeline.ready[place]? = some callback) (forWaiter : callback.errand? = some errand)
    (sound : timeline.Sound) :
    Change setting timeline (timeline.stroke setting (.callback place)) (.callback place) := by
  obtain ⟨before, behind, due, left⟩ := exists_errands found
  have performed := stroke_callback setting found
  rw [forWaiter, Option.toList_some, List.singleton_append] at due
  cases callback with
  | debounceOver => cases forWaiter
  | runStep => cases forWaiter
  | runSlept => cases forWaiter
  | settled => cases forWaiter
  | runOver waiter cancelled =>
      obtain rfl := Option.some.inj forWaiter
      rw [performed]
      refine .passedOn due rfl rfl ?_ rfl
      have told : (if cancelled then Callback.waiterCancelled waiter
          else .waiterStep waiter).errand? = some (waiter, cancelled) := by
        cases cancelled <;> rfl
      rw [Timeline.perform, errands_soon, told, left]
      rfl
  | waiterCancelled waiter =>
      obtain rfl := Option.some.inj forWaiter
      rw [performed]
      exact .settles due (by simp) rfl rfl left rfl
  | waiterStep waiter =>
      obtain rfl := Option.some.inj forWaiter
      rw [performed]
      cases active : timeline.scheduler.active with
      | none =>
          have released : (timeline.without place).perform setting (.waiterStep waiter) =
              (timeline.without place).release waiter .done := by
            simp [Timeline.perform, Timeline.without, active]
          rw [released]
          exact .settles due (fun _ => active) rfl rfl left rfl
      | some run =>
          have watches : (timeline.without place).perform setting (.waiterStep waiter) =
              { timeline.without place with watchers := timeline.watchers ++ [waiter] } := by
            obtain ⟨request, phase⟩ := run
            cases phase with
            | lost => exact absurd active (sound.notLost request)
            | created => simp [Timeline.perform, Timeline.without, active]
            | running => simp [Timeline.perform, Timeline.without, active]
          rw [watches]
          exact .watches due (by rw [active]; rfl) rfl rfl left rfl

variable (setting) in
/-- Every stroke changes one thing at most for those who wait. -/
theorem change_stroke (sound : timeline.Sound) (next : Stroke τ) :
    Change setting timeline (timeline.stroke setting next) next := by
  cases next with
  | callback place =>
      cases found : timeline.ready[place]? with
      | none =>
          refine .nothing ?_
          rw [Timeline.stroke, found]
          exact .refl timeline
      | some callback =>
          cases forWaiter : callback.errand? with
          | none => exact change_of_calm found forWaiter sound
          | some errand => exact change_of_errand found forWaiter sound
  | timer place =>
      refine .nothing ?_
      cases found : timeline.timers[place]? with
      | none =>
          rw [Timeline.stroke, found]
          exact .refl timeline
      | some timer =>
          rw [Timeline.stroke, found]
          have apart := sound.timersApart timer (List.mem_of_getElem? found)
          obtain ⟨waiters, watchers, errands, occupied⟩ := timeline.calm_soon apart
          exact ⟨waiters, watchers, errands, occupied⟩
  | clock now => exact .nothing ⟨rfl, rfl, rfl, id⟩
  | request contents followUp => exact .nothing (calm_request setting timeline contents followUp)
  | close => exact .nothing (timeline.calm_happen .close rfl)
  | cancel request => exact .nothing (timeline.calm_happen (.cancel request) rfl)
  | waitIdle =>
      refine .joins rfl rfl ?_ rfl
      exact errands_soon { timeline with waiters := timeline.waiters ++ [.waiting] } _

end Strokes

end Timeline

end LintClient.Schedule
