import LintClient.Proofs.Schedule.HandOver
import Mathlib.Order.Basic

/-!
# A workshop with a clock

Moves happen at times, and a request arms its timer for the time of its arrival plus the debounce
interval. What is asked of the event loop is said in `Punctual`: the clock does not go back, and no
move is made while an armed timer is overdue, nor by a timer that is not yet due. In between,
everything may happen in any order and at any time, so runs take as long as they please. That a run
takes its first step without delay is asked for apart, in `Prompt`.
-/

namespace LintClient.Schedule

variable {τ ρ : Type}

/-- A workshop with the time of the last move. -/
structure TimedWorkshop (τ ρ : Type) where
  workshop : Workshop ρ
  now : τ
  /-- The times for which the armed timers are armed, in the order of the timers. -/
  due : List τ
deriving DecidableEq, Repr

namespace TimedWorkshop

/-- A workshop in which nothing has happened. -/
def start (origin : τ) : TimedWorkshop τ ρ := ⟨.start, origin, []⟩

/-- The due times of the timers that the scheduler does not stop. -/
def dueLeft (timed : TimedWorkshop τ ρ) : List τ :=
  if timed.workshop.scheduler.timer then timed.due.dropLast else timed.due

/-- The workshop after a move at a time. -/
def perform [Add τ] (debounce : τ) (timed : TimedWorkshop τ ρ) (moment : τ × Move ρ) :
    TimedWorkshop τ ρ where
  workshop := timed.workshop.perform moment.2
  now := moment.1
  due := match moment.2 with
    | .request _ => timed.dueLeft ++ [moment.1 + debounce]
    | .close => timed.dueLeft
    | .timerFires timer => timed.due.eraseIdx timer
    | _ => timed.due

/-- The workshop after some moves at their times. -/
def after [Add τ] (debounce origin : τ) (history : List (τ × Move ρ)) : TimedWorkshop τ ρ :=
  history.foldl (perform debounce) (start origin)

/-- The due time of the timer that fires. -/
def firing? (timed : TimedWorkshop τ ρ) : Move ρ → Option τ
  | .timerFires timer => timed.due[timer]?
  | _ => none

/-- The event loop may make a move at a time: time goes forward, no armed timer has been missed, and
a timer that fires is due. -/
structure Punctual [LE τ] (timed : TimedWorkshop τ ρ) (moment : τ × Move ρ) : Prop where
  forward : timed.now ≤ moment.1
  notMissed : ∀ due ∈ timed.due, moment.1 ≤ due
  notEarly : ∀ due ∈ timed.firing? moment.2, due ≤ moment.1

instance [LE τ] [DecidableLE τ] (timed : TimedWorkshop τ ρ) (moment : τ × Move ρ) :
    Decidable (timed.Punctual moment) :=
  decidable_of_iff
    (timed.now ≤ moment.1 ∧ (∀ due ∈ timed.due, moment.1 ≤ due) ∧
      ∀ due ∈ timed.firing? moment.2, due ≤ moment.1)
    ⟨fun ⟨forward, notMissed, notEarly⟩ => ⟨forward, notMissed, notEarly⟩,
      fun ⟨forward, notMissed, notEarly⟩ => ⟨forward, notMissed, notEarly⟩⟩

/-- As long as a run has not taken its first step, no time passes. -/
def Prompt (timed : TimedWorkshop τ ρ) (moment : τ × Move ρ) : Prop :=
  ∀ task ∈ timed.workshop.tasks, task.phase = .created → moment.1 = timed.now

instance [DecidableEq τ] [DecidableEq ρ] (timed : TimedWorkshop τ ρ) (moment : τ × Move ρ) :
    Decidable (timed.Prompt moment) :=
  inferInstanceAs (Decidable (∀ task ∈ timed.workshop.tasks, _))

/-- A request that waits for its turn is neither dropped nor cancelled. -/
def Spares (request : Nat) (timed : TimedWorkshop τ ρ) (moment : τ × Move ρ) : Prop :=
  timed.workshop.Waits request → moment.2.drops = false ∧ moment.2 ≠ .cancel request

instance [DecidableEq ρ] (request : Nat) (timed : TimedWorkshop τ ρ) (moment : τ × Move ρ) :
    Decidable (timed.Spares request moment) :=
  inferInstanceAs (Decidable (_ → _ ∧ _))

/-- Each of some moves is allowed by the workshop in which it is made. -/
def Throughout [Add τ] (allowed : TimedWorkshop τ ρ → τ × Move ρ → Prop) (debounce origin : τ)
    (history : List (τ × Move ρ)) : Prop :=
  ∀ index (_bound : index < history.length),
    allowed (after debounce origin (history.take index)) history[index]

instance [Add τ] (allowed : TimedWorkshop τ ρ → τ × Move ρ → Prop)
    [∀ timed moment, Decidable (allowed timed moment)] (debounce origin : τ)
    (history : List (τ × Move ρ)) : Decidable (Throughout allowed debounce origin history) :=
  inferInstanceAs (Decidable (∀ index (_bound : index < history.length), _))

/-! ## What moves come to -/

section After

variable [Add τ] {debounce origin : τ}

/-- The last move is made in what the earlier ones have come to. -/
theorem after_concat (history : List (τ × Move ρ)) (moment : τ × Move ρ) :
    after debounce origin (history ++ [moment]) =
      (after debounce origin history).perform debounce moment := by
  simp [after]

/-- Times do not change what moves come to. -/
theorem after_workshop (history : List (τ × Move ρ)) :
    (after debounce origin history).workshop = Workshop.after (history.map Prod.snd) := by
  induction history using List.reverseRecOn with
  | nil => rfl
  | append_singleton history moment inductionHypothesis =>
      rw [after_concat, List.map_append, List.map_singleton, Workshop.after_concat,
        ← inductionHypothesis]
      rfl

/-- Every workshop that can be reached is in order. -/
theorem orderly (history : List (τ × Move ρ)) :
    (after debounce origin history).workshop.Orderly := by
  rw [after_workshop]
  exact Workshop.orderly_after _

/-- Moves are allowed throughout when the earlier ones are and the last one is allowed by what they
have come to. -/
theorem throughout_concat {allowed : TimedWorkshop τ ρ → τ × Move ρ → Prop}
    {history : List (τ × Move ρ)} {moment : τ × Move ρ} :
    Throughout allowed debounce origin (history ++ [moment]) ↔
      Throughout allowed debounce origin history ∧
        allowed (after debounce origin history) moment := by
  constructor
  · intro throughout
    constructor
    · intro index bound
      have here := throughout index (by simp; omega)
      rwa [List.take_append_of_le_length (Nat.le_of_lt bound),
        List.getElem_append_left bound] at here
    · have here := throughout history.length (by simp)
      simpa using here
  · rintro ⟨throughout, last⟩ index bound
    rcases Nat.lt_or_ge index history.length with inside | outside
    · rw [List.take_append_of_le_length (Nat.le_of_lt inside), List.getElem_append_left inside]
      exact throughout index inside
    · have same : index = history.length := by
        simp at bound
        omega
      subst same
      simpa using last

/-- What is allowed so far was allowed all along. -/
theorem Throughout.of_append {allowed : TimedWorkshop τ ρ → τ × Move ρ → Prop}
    {earlier later : List (τ × Move ρ)}
    (throughout : Throughout allowed debounce origin (earlier ++ later)) :
    Throughout allowed debounce origin earlier := by
  induction later using List.reverseRecOn with
  | nil => rwa [List.append_nil] at throughout
  | append_singleton later moment inductionHypothesis =>
      rw [← List.append_assoc, throughout_concat] at throughout
      exact inductionHypothesis throughout.1

omit [Add τ] in
/-- The scheduler stops a timer and its due time alike. -/
theorem dueLeft_length {timed : TimedWorkshop τ ρ}
    (same : timed.due.length = timed.workshop.timers.length) :
    timed.dueLeft.length = timed.workshop.timersLeft.length := by
  unfold dueLeft Workshop.timersLeft
  split <;> simp [same]

/-- Each armed timer has its due time. -/
theorem due_length (history : List (τ × Move ρ)) :
    (after debounce origin history).due.length =
      (after debounce origin history).workshop.timers.length := by
  induction history using List.reverseRecOn with
  | nil => rfl
  | append_singleton history moment inductionHypothesis =>
      obtain ⟨time, move⟩ := moment
      rw [after_concat]
      generalize after debounce origin history = timed at inductionHypothesis
      have left := dueLeft_length inductionHypothesis
      cases move with
      | request contents => simp [perform, Workshop.perform, left]
      | close => simp [perform, Workshop.perform, left]
      | cancel request => exact inductionHypothesis
      | timerFires timer =>
          simp only [perform, Workshop.perform]
          split
          next => simp [List.length_eraseIdx, inductionHypothesis]
          next unarmed =>
            rw [List.eraseIdx_of_length_le (by omega)]
            exact inductionHypothesis
      | firstStep index =>
          rcases timed.workshop.firstStep_cases index with ⟨request, contents, found⟩ | same
          · simp only [perform, Workshop.perform_firstStep found]
            exact inductionHypothesis
          · simp only [perform, same]
            exact inductionHypothesis
      | runEnds index ending =>
          rcases timed.workshop.runEnds_cases index ending with ⟨request, contents, found⟩ | same
          · simp only [perform, Workshop.perform_runEnds found]
            split <;> exact inductionHypothesis
          · simp only [perform, same]
            exact inductionHypothesis

/-- The scheduler stops the only timer that is due. -/
theorem dueLeft_eq_nil (history : List (τ × Move ρ)) :
    (after debounce origin history).dueLeft = [] := by
  rw [← List.length_eq_zero_iff, dueLeft_length (due_length history),
    (orderly history).timersLeft_eq, List.length_nil]

end After

end TimedWorkshop

end LintClient.Schedule
