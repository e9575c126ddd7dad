import LintClient.Schedule.Timeline
import Mathlib.Data.List.Induction

/-!
# Strokes of the loop

The event loop performs what is ready in turns, and takes the timers whose time has come with it.
Here one thing happens at a time: a callback of the queue is performed, a timer comes due, the clock
goes on, or something is asked for from outside, each at any time and in any order. A turn is made
of such strokes (`leads_turnWith`), and so is everything that the loop does
(`loop_is_made_of_strokes`). What holds after all strokes therefore holds whatever the loop makes of
its queue, its timers and its clock.
-/

namespace LintClient.Schedule

/-- One thing that happens on the loop or is asked for from outside. Callbacks and timers are known
by their places. -/
inductive Stroke (τ : Type) where
  /-- A callback of the queue is performed. -/
  | callback (place : Nat)
  /-- The time of a timer has come, and its callback joins the queue. -/
  | timer (place : Nat)
  /-- The clock shows a time. -/
  | clock (now : τ)
  | request (contents : String) (followUp : Option String)
  | close
  | cancel (request : Nat)
  | waitIdle
deriving DecidableEq, Repr

/-- Whether a stroke is something that is asked for from outside. -/
def Stroke.isAsked {τ : Type} : Stroke τ → Bool
  | .callback _ => false
  | .timer _ => false
  | .clock _ => false
  | _ => true

/-- The callback that an effect queues. -/
def Effect.callback : Effect → Callback
  | .settled request => .settled request
  | .created _ => .runStep

namespace Timeline

variable {τ ρ : Type}

/-- The timeline with callbacks in front of its queue. -/
def ahead (front : List Callback) (timeline : Timeline τ ρ) : Timeline τ ρ :=
  { timeline with ready := front ++ timeline.ready }

/-! ## What operations queue -/

/-- Callbacks that are queued one after another stand in the queue in their order. -/
theorem foldl_soon {α : Type} (callbackOf : α → Callback) (items : List α)
    (timeline : Timeline τ ρ) :
    items.foldl (fun timeline item => timeline.soon (callbackOf item)) timeline =
      { timeline with ready := timeline.ready ++ items.map callbackOf } := by
  induction items generalizing timeline with
  | nil => simp
  | cons item items inductionHypothesis =>
      rw [List.foldl_cons, inductionHypothesis]
      simp [soon]

/-- An effect is absorbed by queueing its callback. -/
theorem absorb_eq (timeline : Timeline τ ρ) (effect : Effect) :
    timeline.absorb effect = timeline.soon effect.callback := by
  cases effect <;> rfl

/-- An event changes the scheduler and queues what it sets off. -/
theorem happen_eq (timeline : Timeline τ ρ) (event : Event ρ) : timeline.happen event =
    { timeline with
      scheduler := (timeline.scheduler.step event).1
      ready := timeline.ready ++ (timeline.scheduler.step event).2.map Effect.callback } := by
  have absorbed : @absorb τ ρ = fun timeline effect => timeline.soon effect.callback := by
    funext timeline effect
    exact absorb_eq timeline effect
  rw [happen, absorbed]
  exact foldl_soon _ _ _

/-- How the run in flight ends, if it is for this request. -/
def endingOf (setting : Setting τ ρ) (timeline : Timeline τ ρ) (request : Nat) : RunEnd ρ :=
  (setting.runner (timeline.runs.length - 1) (timeline.contentsOf request)).ending

end Timeline

/-- Whether a run ends in a cancellation. -/
def RunEnd.isCancelled {ρ : Type} : RunEnd ρ → Bool
  | .answered _ => false
  | .cancelled => true

namespace Timeline

variable {τ ρ : Type}

/-- The last step of a run lets it end and tells everyone who watches it. -/
theorem finishRun_eq (setting : Setting τ ρ) (timeline : Timeline τ ρ) (request : Nat) :
    let ending := timeline.endingOf setting request
    let ended := timeline.happen (.runEnds ending)
    timeline.finishRun setting request =
      { ended with
        runs := ended.runs.modify (ended.runs.length - 1) fun record =>
          { record with ended := some ended.now }
        watchers := []
        ready := ended.ready
          ++ timeline.watchers.map fun waiter => .runOver waiter ending.isCancelled } := by
  simp only [finishRun, foldl_soon, endingOf]
  cases (setting.runner (timeline.runs.length - 1) (timeline.contentsOf request)).ending <;> rfl

/-- The timeline when a run has been handed its text. -/
def begun (timeline : Timeline τ ρ) (request : Nat) : Timeline τ ρ :=
  let started := timeline.happen .runStarts
  let runs := started.runs ++ [⟨timeline.contentsOf request, started.now, none⟩]
  { started with runs := runs, peak := max started.peak (inFlight runs) }

/-- A run that has begun waits for a timer or for its next turn, or ends at once. -/
theorem beginRun_eq [Add τ] [OfNat τ 0] [LE τ] [DecidableLE τ] (setting : Setting τ ρ)
    (timeline : Timeline τ ρ) (request : Nat) : timeline.beginRun setting request =
      match (setting.runner timeline.runs.length (timeline.contentsOf request)).duration with
      | some duration =>
        if duration ≤ 0 then (timeline.begun request).soon .runStep
        else (timeline.begun request).later duration .runSlept
      | none => (timeline.begun request).finishRun setting request := rfl

/-! ## Callbacks in front of the queue -/

section Ahead

variable (front : List Callback) (timeline : Timeline τ ρ)

/-- What stands in front of the queue does not touch a callback that joins it. -/
theorem soon_ahead (callback : Callback) :
    (timeline.ahead front).soon callback = (timeline.soon callback).ahead front := by
  simp [ahead, soon]

/-- What stands in front of the queue does not touch an event. -/
theorem happen_ahead (event : Event ρ) :
    (timeline.ahead front).happen event = (timeline.happen event).ahead front := by
  simp [happen_eq, ahead]

/-- What stands in front of the queue does not touch the end of a run. -/
theorem finishRun_ahead (setting : Setting τ ρ) (request : Nat) :
    (timeline.ahead front).finishRun setting request =
      (timeline.finishRun setting request).ahead front := by
  have same : (timeline.ahead front).endingOf setting request =
      timeline.endingOf setting request := rfl
  rw [finishRun_eq, finishRun_eq]
  simp only [same, happen_ahead]
  simp [ahead]

variable [Add τ]

/-- What stands in front of the queue does not touch a request. -/
theorem request_ahead (setting : Setting τ ρ) (contents : String) (followUp : Option String) :
    (timeline.ahead front).request setting contents followUp =
      (timeline.request setting contents followUp).ahead front := by
  unfold request
  cases setting.debounce with
  | none => simp only [happen_ahead]; rfl
  | some debounce => cases followUp <;> simp only [happen_ahead] <;> rfl

variable [OfNat τ 0] [LE τ] [DecidableLE τ]

omit [Add τ] [OfNat τ 0] [LE τ] [DecidableLE τ] in
/-- What stands in front of the queue does not touch the first step of a run. -/
theorem begun_ahead (request : Nat) :
    (timeline.ahead front).begun request = (timeline.begun request).ahead front := by
  simp only [begun, happen_ahead]
  rfl

/-- What stands in front of the queue does not touch the beginning of a run. -/
theorem beginRun_ahead (setting : Setting τ ρ) (request : Nat) :
    (timeline.ahead front).beginRun setting request =
      (timeline.beginRun setting request).ahead front := by
  have same : (setting.runner (timeline.ahead front).runs.length
      ((timeline.ahead front).contentsOf request)).duration =
        (setting.runner timeline.runs.length (timeline.contentsOf request)).duration := rfl
  rw [beginRun_eq, beginRun_eq, same, begun_ahead]
  split
  · split
    · exact soon_ahead _ _ _
    · rfl
  · exact finishRun_ahead _ _ _ _

/-- A callback queues what it sets off behind everything else, and does nothing else to the
queue. -/
theorem perform_ahead (setting : Setting τ ρ) (callback : Callback) :
    (timeline.ahead front).perform setting callback =
      (timeline.perform setting callback).ahead front := by
  have same : (timeline.ahead front).scheduler = timeline.scheduler := rfl
  have sameFollowUps : (timeline.ahead front).followUps = timeline.followUps := rfl
  cases callback with
  | debounceOver request =>
      simp only [perform, same]
      split
      · exact happen_ahead _ _ _
      · rfl
  | runStep =>
      simp only [perform, same]
      split
      · exact beginRun_ahead _ _ _ _
      · exact finishRun_ahead _ _ _ _
      · rfl
  | runSlept => exact soon_ahead _ _ _
  | settled request =>
      simp only [perform, sameFollowUps]
      split
      · exact request_ahead _ _ _ _ _
      · rfl
  | runOver waiter cancelled => exact soon_ahead _ _ _
  | waiterStep waiter =>
      simp only [perform, same]
      split <;> rfl
  | waiterCancelled waiter => rfl

end Ahead

/-! ## Strokes -/

section Strokes

variable [Add τ] [OfNat τ 0] [LE τ] [DecidableLE τ]

/-- The timeline after a stroke. A callback or a timer that is not there changes nothing. -/
def stroke (setting : Setting τ ρ) (timeline : Timeline τ ρ) : Stroke τ → Timeline τ ρ
  | .callback place =>
    match timeline.ready[place]? with
    | some callback =>
      perform setting { timeline with ready := timeline.ready.eraseIdx place } callback
    | none => timeline
  | .timer place =>
    match timeline.timers[place]? with
    | some timer =>
      { timeline with
        timers := timeline.timers.eraseIdx place
        ready := timeline.ready ++ [timer.2] }
    | none => timeline
  | .clock now => { timeline with now := now }
  | .request contents followUp => timeline.request setting contents followUp
  | .close => timeline.close
  | .cancel request => (timeline.cancel request).1
  | .waitIdle => timeline.waitIdle

/-- The timeline after some strokes. -/
def after (setting : Setting τ ρ) (origin : τ) (strokes : List (Stroke τ)) : Timeline τ ρ :=
  strokes.foldl (stroke setting) (start origin)

variable {setting : Setting τ ρ}

/-- The last stroke is made on what the earlier ones have come to. -/
theorem after_concat (origin : τ) (strokes : List (Stroke τ)) (last : Stroke τ) :
    after setting origin (strokes ++ [last]) =
      (after setting origin strokes).stroke setting last := by
  simp [after]

/-- What holds at the start and is kept by every stroke holds after all strokes. -/
theorem kept_after (kept : Timeline τ ρ → Prop)
    (step : ∀ timeline, kept timeline → ∀ next, kept (timeline.stroke setting next)) {origin : τ}
    (initial : kept (start origin)) (strokes : List (Stroke τ)) :
    kept (after setting origin strokes) := by
  induction strokes using List.reverseRecOn with
  | nil => exact initial
  | append_singleton strokes last inductionHypothesis =>
      rw [after_concat]
      exact step _ inductionHypothesis last

/-- What is asked for from outside joins the queue behind everything else. -/
theorem stroke_ahead (front : List Callback) (timeline : Timeline τ ρ) {asked : Stroke τ}
    (isAsked : asked.isAsked = true) : (timeline.ahead front).stroke setting asked =
      (timeline.stroke setting asked).ahead front := by
  cases asked with
  | callback place => cases isAsked
  | timer place => cases isAsked
  | clock now => cases isAsked
  | request contents followUp => exact request_ahead _ _ _ _ _
  | close => exact happen_ahead front timeline .close
  | cancel request => exact happen_ahead front timeline (.cancel request)
  | waitIdle => exact soon_ahead front { timeline with waiters := timeline.waiters ++ [.waiting] } _

/-! ## What strokes lead to -/

/-- Strokes lead from one timeline to another. -/
def Leads (setting : Setting τ ρ) (timeline next : Timeline τ ρ) : Prop :=
  ∃ strokes : List (Stroke τ), strokes.foldl (stroke setting) timeline = next

/-- No stroke at all leads to the same timeline. -/
theorem Leads.refl (timeline : Timeline τ ρ) : Leads setting timeline timeline :=
  ⟨[], rfl⟩

/-- Strokes after strokes are strokes. -/
theorem Leads.trans {timeline next final : Timeline τ ρ} (first : Leads setting timeline next)
    (second : Leads setting next final) : Leads setting timeline final := by
  obtain ⟨strokes, rfl⟩ := first
  obtain ⟨more, rfl⟩ := second
  exact ⟨strokes ++ more, List.foldl_append⟩

/-- A stroke leads to what it makes of a timeline. -/
theorem Leads.single (timeline : Timeline τ ρ) (next : Stroke τ) :
    Leads setting timeline (timeline.stroke setting next) :=
  ⟨[next], rfl⟩

/-- The queue is performed from its front, and what that sets off joins it at its end. -/
theorem leads_performAll (setting : Setting τ ρ) (callbacks : List Callback)
    (timeline : Timeline τ ρ) :
    Leads setting (timeline.ahead callbacks) (callbacks.foldl (perform setting) timeline) := by
  induction callbacks generalizing timeline with
  | nil => exact .refl _
  | cons callback callbacks inductionHypothesis =>
      have first : (timeline.ahead (callback :: callbacks)).stroke setting (.callback 0) =
          (timeline.perform setting callback).ahead callbacks :=
        perform_ahead callbacks timeline setting callback
      exact (first ▸ Leads.single _ _).trans (inductionHypothesis _)

/-- What stands in front of the queue does not touch callbacks that are performed. -/
theorem foldl_perform_ahead (front callbacks : List Callback) (timeline : Timeline τ ρ) :
    callbacks.foldl (perform setting) (timeline.ahead front) =
      (callbacks.foldl (perform setting) timeline).ahead front := by
  induction callbacks generalizing timeline with
  | nil => rfl
  | cons callback callbacks inductionHypothesis =>
      rw [List.foldl_cons, List.foldl_cons, perform_ahead, inductionHypothesis]

/-- What stands in front of the queue does not touch strokes that are asked for from outside. -/
theorem foldl_stroke_ahead (front : List Callback) {asked : List (Stroke τ)}
    (areAsked : ∀ next ∈ asked, next.isAsked = true) (timeline : Timeline τ ρ) :
    asked.foldl (stroke setting) (timeline.ahead front) =
      (asked.foldl (stroke setting) timeline).ahead front := by
  induction asked generalizing timeline with
  | nil => rfl
  | cons next asked inductionHypothesis =>
      rw [List.foldl_cons, List.foldl_cons, stroke_ahead front timeline (areAsked next (by simp)),
        inductionHypothesis fun other there => areAsked other (List.mem_cons_of_mem _ there)]

/-- What is done from outside is made of what can be asked for. -/
def Asks {α : Type} (setting : Setting τ ρ) (act : Timeline τ ρ → Timeline τ ρ × α) : Prop :=
  ∀ timeline, ∃ asked : List (Stroke τ), (∀ next ∈ asked, next.isAsked = true) ∧
    (act timeline).1 = asked.foldl (stroke setting) timeline

/-- To do nothing asks for no stroke. -/
theorem asks_nothing : Asks setting fun begun : Timeline τ ρ => (begun, ()) :=
  fun _ => ⟨[], nofun, rfl⟩

/-- Several things may be asked for in a row. -/
theorem asks_all {asked : List (Stroke τ)} (areAsked : ∀ next ∈ asked, next.isAsked = true) :
    Asks setting fun timeline => (asked.foldl (stroke setting) timeline, ()) :=
  fun _ => ⟨asked, areAsked, rfl⟩

end Strokes

section Turns

variable [LT τ] [DecidableLT τ]

/-- The earliest timer stands at some place among the timers. -/
theorem takeEarliest?_eq_some {timers others : List (τ × Callback)} {earliest : τ × Callback}
    (taken : takeEarliest? timers = some (earliest, others)) :
    ∃ place : Nat, timers[place]? = some earliest ∧ others = timers.eraseIdx place := by
  induction timers generalizing earliest others with
  | nil => cases taken
  | cons timer timers inductionHypothesis =>
      rw [takeEarliest?] at taken
      split at taken
      next nothing =>
        obtain ⟨rfl, rfl⟩ := Prod.mk.inj (Option.some.inj taken)
        cases timers with
        | nil => exact ⟨0, rfl, rfl⟩
        | cons second timers =>
            rw [takeEarliest?] at nothing
            split at nothing
            · cases nothing
            · split at nothing <;> cases nothing
      next first rest found =>
        split at taken
        · obtain ⟨rfl, rfl⟩ := Prod.mk.inj (Option.some.inj taken)
          obtain ⟨place, there, left⟩ := inductionHypothesis found
          exact ⟨place + 1, there, by rw [left]; rfl⟩
        · obtain ⟨rfl, rfl⟩ := Prod.mk.inj (Option.some.inj taken)
          exact ⟨0, rfl, rfl⟩

variable [Add τ] [OfNat τ 0] [LE τ] [DecidableLE τ] {setting : Setting τ ρ}

/-- Timers come due one after the other. -/
theorem leads_takeUntil (setting : Setting τ ρ) (ending : τ) (count : Nat)
    (timeline : Timeline τ ρ) :
    Leads setting timeline
      { timeline with
        timers := (takeUntil ending count timeline.timers).2
        ready := timeline.ready ++ (takeUntil ending count timeline.timers).1 } := by
  have nothing : Leads setting timeline { timeline with ready := timeline.ready ++ [] } := by
    rw [List.append_nil]
    exact .refl _
  induction count generalizing timeline with
  | zero => exact nothing
  | succ count inductionHypothesis =>
      unfold takeUntil
      cases taken : takeEarliest? timeline.timers with
      | none => exact nothing
      | some found =>
          obtain ⟨earliest, others⟩ := found
          dsimp only
          by_cases early : ending ≤ earliest.1
          · rw [if_pos early]
            exact nothing
          · rw [if_neg early]
            obtain ⟨place, there, rfl⟩ := takeEarliest?_eq_some taken
            have due : timeline.stroke setting (.timer place) =
                { timeline with
                  timers := timeline.timers.eraseIdx place
                  ready := timeline.ready ++ [earliest.2] } := by
              simp [stroke, there]
            refine (due ▸ Leads.single timeline (.timer place)).trans ?_
            have rest := inductionHypothesis
              { timeline with
                timers := timeline.timers.eraseIdx place
                ready := timeline.ready ++ [earliest.2] } (by
                  rw [List.append_nil]
                  exact .refl _)
            rwa [List.append_assoc] at rest

/-- A turn is made of strokes. -/
theorem leads_turnWith {α : Type} {act : Timeline τ ρ → Timeline τ ρ × α}
    (asks : Asks setting act) (timeline : Timeline τ ρ) :
    Leads setting timeline (timeline.turnWith setting act).1 := by
  unfold turnWith
  generalize taken : takeUntil (timeline.now + setting.resolution) timeline.timers.length
    timeline.timers = found
  obtain ⟨due, others⟩ := found
  dsimp only
  have timersDue := leads_takeUntil setting (timeline.now + setting.resolution)
    timeline.timers.length timeline
  rw [taken] at timersDue
  refine timersDue.trans ?_
  have performed := leads_performAll setting timeline.ready
    (ahead due { timeline with ready := [], timers := others })
  rw [foldl_perform_ahead] at performed
  have queue : ahead timeline.ready (ahead due { timeline with ready := [], timers := others }) =
      { timeline with timers := others, ready := timeline.ready ++ due } := by
    simp [ahead]
  rw [queue] at performed
  refine performed.trans ?_
  generalize timeline.ready.foldl (perform setting) _ = begun
  obtain ⟨asked, areAsked, same⟩ := asks begun
  have done : Leads setting (begun.ahead due) ((act begun).1.ahead due) :=
    ⟨asked, by rw [same, foldl_stroke_ahead due areAsked]⟩
  exact done.trans (leads_performAll setting due _)

/-- What the loop does until nothing is left to do is made of strokes. -/
theorem leads_settle (timeline : Timeline τ ρ) :
    Leads setting timeline (timeline.settle setting) := by
  have within (turns : Nat) (timeline : Timeline τ ρ) :
      Leads setting timeline (timeline.settleWithin setting turns) := by
    induction turns generalizing timeline with
    | zero => exact .refl _
    | succ turns inductionHypothesis =>
        rw [settleWithin]
        split
        · exact (leads_turnWith asks_nothing timeline).trans (inductionHypothesis _)
        · exact .refl _
  exact within _ _

/-- What is done from outside, and all that follows at once, is made of strokes. -/
theorem leads_interact {α : Type} {act : Timeline τ ρ → Timeline τ ρ × α}
    (asks : Asks setting act) (timeline : Timeline τ ρ) :
    Leads setting timeline (timeline.interact setting act).1 :=
  (leads_turnWith asks timeline).trans (leads_settle _)

/-- So is what happens while time goes on. -/
theorem leads_advance (timeline : Timeline τ ρ) (duration : τ) :
    Leads setting timeline (timeline.advance setting duration) := by
  have within (target : τ) (stops : Nat) (timeline : Timeline τ ρ) :
      Leads setting timeline (timeline.advanceWithin setting target stops) := by
    induction stops generalizing timeline with
    | zero => exact .single timeline (.clock target)
    | succ stops inductionHypothesis =>
        rw [advanceWithin]
        split
        · next time _ =>
          split
          · exact .single timeline (.clock target)
          · exact ((Leads.single timeline (.clock time)).trans (leads_settle _)).trans
              (inductionHypothesis _)
        · exact .single timeline (.clock target)
  exact (within _ _ _).trans (leads_settle _)

/-- Whatever is asked for in one turn, and however long time goes on, the loop gets there by
strokes. -/
theorem loop_is_made_of_strokes (timeline : Timeline τ ρ) :
    (∀ asked : List (Stroke τ), (∀ next ∈ asked, next.isAsked = true) →
      Leads setting timeline (timeline.interact setting fun begun =>
        (asked.foldl (stroke setting) begun, ())).1) ∧
    ∀ duration, Leads setting timeline (timeline.advance setting duration) :=
  ⟨fun _ areAsked => leads_interact (asks_all areAsked) timeline, leads_advance timeline⟩

end Turns

end Timeline

end LintClient.Schedule
