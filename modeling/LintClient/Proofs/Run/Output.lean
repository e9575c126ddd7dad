import LintClient.Proofs.Run.Calm
import LintClient.Proofs.Run.Timetable

/-!
# The report of a run

A run that comes to its end gives the report of what its child has written as its output, and of
nothing else (`runChild_of_comesToEnd`): neither the exit status of the child counts nor what it
writes about itself, neither the chunks of its output nor whether it has read its text to the end.
-/

namespace LintClient

namespace Launch

/-- The chunks of a child's output. -/
def Child.chunks (child : Child) : List (List UInt8) :=
  child.arrivals.filterMap fun
    | (_, .output bytes) => some bytes
    | (_, .message _) => none

/-- A child that plays its part to the end, if it is given some time to be gone after it has stopped
reading. -/
structure Child.Completes (child : Child) (grace : Moment) : Prop where
  /-- What it writes arrives in order. -/
  ordered : child.arrivals.Pairwise fun earlier later => earlier.1 ≤ later.1
  /-- Its pipes come to their ends, and nothing arrives behind them. -/
  closes : ∃ moment, child.closed = some moment ∧ ∀ event ∈ child.arrivals, event.1 ≤ moment
  /-- It takes its text or stops reading. -/
  served : child.delivery ≠ .stuck
  /-- It exits. If it has stopped reading before, it exits in time, and its pipes are closed in
  time. -/
  exits : ∃ moment, child.exit = some moment ∧ ∀ broken, child.delivery = .broken broken →
    moment < broken ∨ moment ≤ broken + grace ∧
      ∀ closed, child.closed = some closed → closed ≤ broken + grace

end Launch

namespace Run

open Launch (Moment Child)
open Text (Source)

/-- Whether a limit allows something to happen at a moment. -/
def Limit.Allows : Limit → Moment → Prop
  | .unlimited, _ => True
  | .expired, _ => False
  | .after limit, moment => moment < limit

/-! ## The course of a child -/

section Course

variable {child : Child} {grace : Moment} (completes : child.Completes grace)

/-- What a child does is calm. -/
theorem Does.isCalm {event : Moment × Happening} (does : Does child event) :
    event.2.isCalm = true := by
  cases does <;> rfl

/-- What arrives is told to the decoder chunk by chunk. -/
theorem outputCalls_arrivals (child : Child) :
    outputCalls (child.arrivals.map fun (moment, arrival) => (moment, .arrived arrival)) =
      child.chunks.map .feed := by
  rw [outputCalls, List.filterMap_map, Child.chunks, List.map_filterMap]
  congr 1
  funext event
  obtain ⟨moment, arrival⟩ := event
  cases arrival <;> rfl

/-- The calls of one history after another are those of each, in order. -/
theorem outputCalls_append (earlier later : History) :
    outputCalls (earlier ++ later) = outputCalls earlier ++ outputCalls later :=
  List.filterMap_append

/-- What a child does, up to order. -/
theorem outputCalls_lifeOf {ending : Moment} (closed : child.closed = some ending) :
    outputCalls (lifeOf child) = child.chunks.map .feed ++ [.close] := by
  simp only [lifeOf, closed, outputCalls_append, outputCalls_arrivals]
  cases child.delivery <;> cases child.exit <;> cases disconnectionOf child <;>
    simp [outputCalls, Happening.outputCall?]

include completes

/-- In the course of a child, its output comes chunk by chunk, and then its end. -/
theorem outputCalls_courseOf :
    outputCalls (courseOf child) = child.chunks.map .feed ++ [.close] := by
  obtain ⟨ending, closed, behind⟩ := completes.closes
  -- The output and its end are in order already, so the order of moments leaves them so.
  let stream : History :=
    child.arrivals.map (fun (moment, arrival) => (moment, .arrived arrival)) ++
      [(ending, .ended .output)]
  have calls : outputCalls stream = child.chunks.map .feed ++ [.close] := by
    rw [outputCalls_append, outputCalls_arrivals]
    rfl
  have inOrder : stream.Pairwise fun earlier later => earlier.1 ≤ later.1 := by
    refine List.pairwise_append.mpr ⟨List.pairwise_map.mpr completes.ordered,
      List.pairwise_singleton _ _, ?_⟩
    intro arrived among last isLast
    obtain ⟨event, there, rfl⟩ := List.mem_map.mp among
    rw [List.mem_singleton.mp isLast]
    exact behind event there
  have part : stream.Sublist (lifeOf child) := by
    simp only [lifeOf, closed]
    refine List.Sublist.trans ?_ (List.sublist_append_left _ _)
    refine List.Sublist.trans ?_ (List.sublist_append_left _ _)
    rw [List.append_assoc]
    refine List.Sublist.trans ?_ (List.sublist_append_right _ _)
    exact (List.Sublist.refl _).append (by simp)
  have kept : (outputCalls stream).Sublist (outputCalls (courseOf child)) :=
    (sublist_courseOf inOrder part).filterMap _
  have counted : (outputCalls (courseOf child)).length = (outputCalls (lifeOf child)).length :=
    ((List.mergeSort_perm _ _).filterMap _).length_eq
  rw [← calls]
  refine (kept.eq_of_length ?_).symm
  rw [counted, outputCalls_lifeOf closed, calls]

/-- The course of a child that completes is a complete history of its chunks. -/
theorem completes_courseOf : Exchange.Completes (courseOf child) child.chunks where
  calm event among := (mem_courseOf.mp among).isCalm
  output := outputCalls_courseOf completes
  messages := by
    obtain ⟨ending, closed, -⟩ := completes.closes
    exact ⟨_, mem_courseOf.mpr (.closes closed .message), rfl⟩
  delivery := by
    cases served : child.delivery with
    | taken moment => exact ⟨_, mem_courseOf.mpr (.takes served), .inl rfl⟩
    | broken moment => exact ⟨_, mem_courseOf.mpr (.stopsReading served), .inr rfl⟩
    | stuck => exact absurd served completes.served
  exit := by
    obtain ⟨moment, exits, -⟩ := completes.exits
    exact ⟨_, mem_courseOf.mpr (.exits exits), child.status, rfl⟩
  disconnection := by
    obtain ⟨ending, closed, -⟩ := completes.closes
    have disconnected : ∃ moment, disconnectionOf child = some moment := by
      cases served : child.delivery with
      | taken moment => exact ⟨max moment ending, by simp [disconnectionOf, served, closed]⟩
      | broken moment => exact ⟨max moment ending, by simp [disconnectionOf, served, closed]⟩
      | stuck => exact absurd served completes.served
    obtain ⟨moment, disconnected⟩ := disconnected
    exact ⟨_, mem_courseOf.mpr (.disconnects disconnected), rfl⟩

end Course

/-! ## Following a calm course -/

/-- Whether a child is on its way out when this happens. -/
def Happening.isParting : Happening → Bool
  | .exited _ | .disconnected => true
  | _ => false

namespace Exchange

variable (conditions : Conditions) (limit : Json) (child : Child) {exchange : Exchange}

/-- An exchange whose child is gone in time: its exit and the disconnection of its pipes are still
to come, and before the exchange has waited for too long. -/
structure Awaits (grace : Moment) (exchange : Exchange) (history : History) : Prop where
  exits : exchange.status = none → ∃ event ∈ history, ∃ status, event.2 = .exited status
  disconnects : exchange.isLinked = true →
    (∃ verdict, exchange.stage = .ended verdict) ∨ ∃ event ∈ history, event.2 = .disconnected
  inTime : ∀ deadline, exchange.stage = .leaving deadline →
    ∀ event ∈ history, event.2.isParting = true → event.1 ≤ deadline
  graced : ∀ stop ∈ history, stop.2 = .undelivered .stoppedReading → exchange.status = none →
    (∃ exit ∈ history, exit.1 < stop.1 ∧ ∃ status, exit.2 = .exited status) ∨
      ∀ event ∈ history, event.2.isParting = true → event.1 ≤ stop.1 + grace

/-- As long as no time is over and the child has nothing to obey, a timetable is followed event by
event. -/
theorem follow_cons {event : Moment × Happening} {rest : History}
    (unfinished : exchange.isOver = false) (inTime : exchange.overdue? (some event.1) = none)
    (goesOn : (exchange.step conditions limit event.1 event.2).obey? conditions limit child event.1
      rest = none) :
    exchange.follow conditions limit child (event :: rest) =
      (exchange.step conditions limit event.1 event.2).follow conditions limit child rest := by
  simp only [follow, unfinished, inTime, goesOn, Option.getD_none, Bool.false_eq_true, if_false]

/-- An exchange that has ended stays as it is along a timetable. -/
theorem follow_of_ended {verdict : Verdict} (ended : exchange.stage = .ended verdict)
    (timetable : History) : exchange.follow conditions limit child timetable = exchange := by
  cases timetable with
  | nil => simp [follow, overdue?, ended, Stage.deadline?]
  | cons event later => simp [follow, isOver, ended]

/-- What happens calmly leaves an undisturbed exchange that has ended as it is. -/
theorem Undisturbed.step_of_ended (undisturbed : exchange.Undisturbed) {verdict : Verdict}
    (ended : exchange.stage = .ended verdict) (now : Moment) {happening : Happening}
    (calm : happening.isCalm = true) :
    exchange.step conditions limit now happening = exchange := by
  have waits := undisturbed.waits
  rw [ended] at waits
  obtain ⟨-, read, exited⟩ := waits
  rw [isRead_of_faultless undisturbed.faultless] at read
  simp only [Bool.not_or, Bool.and_eq_true, Bool.not_eq_true'] at read
  obtain ⟨noOutput, noMessages⟩ := read
  cases happening with
  | delivered => simp [Exchange.step, ended]
  | undelivered fault => simp [Exchange.step, ended]
  | arrived arrival => cases arrival <;> simp [Exchange.step, noOutput, noMessages]
  | ended pipe => cases pipe <;> simp [Exchange.step, noOutput, noMessages]
  | exited status => simp [Exchange.step, exited]
  | disconnected => simp [Exchange.step, isOver, ended]
  | unreadable fault => cases calm
  | graceOver => cases calm
  | interrupted interruption => cases calm

/-- An undisturbed exchange that has ended stays as it is along a calm history. -/
theorem Undisturbed.after_of_ended (undisturbed : exchange.Undisturbed) {verdict : Verdict}
    (ended : exchange.stage = .ended verdict) {history : History}
    (calm : ∀ event ∈ history, event.2.isCalm = true) :
    exchange.after conditions limit history = exchange := by
  induction history with
  | nil => rfl
  | cons event later inductionHypothesis =>
      have ⟨calmNow, calmLater⟩ := List.forall_mem_cons.mp calm
      rw [after_cons, undisturbed.step_of_ended conditions limit ended event.1 calmNow]
      exact inductionHypothesis calmLater

/-- A child has nothing to obey in an undisturbed exchange. -/
theorem Undisturbed.obey?_eq_none (undisturbed : exchange.Undisturbed) (now : Moment)
    (rest : History) : exchange.obey? conditions limit child now rest = none := by
  have waits := undisturbed.waits
  rw [obey?, Option.map_eq_none_iff]
  cases staged : exchange.stage with
  | stopping cause stopping =>
      rw [staged] at waits
      exact waits.elim
  | _ => rfl

/-- As long as a child that is waited for is not gone, something of that is still to come. -/
theorem Awaits.exists_parting {grace : Moment} {history : History}
    (awaits : Awaits grace exchange history) {deadline : Moment}
    (leaving : exchange.stage = .leaving deadline) (here : exchange.isGone = false) :
    ∃ event ∈ history, event.2.isParting = true := by
  cases known : exchange.status with
  | none =>
      obtain ⟨event, among, status, exited⟩ := awaits.exits known
      exact ⟨event, among, by rw [exited]; rfl⟩
  | some status =>
      have linked : exchange.isLinked = true := by simpa [isGone, known] using here
      rcases awaits.disconnects linked with ⟨verdict, ended⟩ | ⟨event, among, disconnected⟩
      · cases leaving.symm.trans ended
      · exact ⟨event, among, by rw [disconnected]; rfl⟩

/-- While a child is still to be gone in time, no time is over. -/
theorem Awaits.overdue?_eq_none {grace : Moment} {event : Moment × Happening} {later : History}
    (awaits : Awaits grace exchange (event :: later)) (undisturbed : exchange.Undisturbed)
    (inOrder : (event :: later).Pairwise fun earlier later => earlier.1 ≤ later.1) :
    exchange.overdue? (some event.1) = none := by
  have waits := undisturbed.waits
  unfold overdue?
  cases staged : exchange.stage with
  | leaving deadline =>
      rw [staged] at waits
      obtain ⟨parting, among, parts⟩ := awaits.exists_parting staged waits
      have inTime : parting.1 ≤ deadline := awaits.inTime deadline staged parting among parts
      simp [Stage.deadline?, Nat.le_trans (head_notLater inOrder among) inTime]
  | stopping cause stopping =>
      rw [staged] at waits
      exact waits.elim
  | _ => rfl

/-- After a step the child is still awaited. -/
theorem Awaits.step {event : Moment × Happening} {later : History}
    (awaits : Awaits conditions.exitGrace exchange (event :: later))
    (undisturbed : exchange.Undisturbed) (calm : event.2.isCalm = true)
    (inOrder : (event :: later).Pairwise fun earlier later => earlier.1 ≤ later.1) :
    Awaits conditions.exitGrace (exchange.step conditions limit event.1 event.2) later := by
  have stepped := undisturbed.step conditions limit event.1 calm
  have settles := settles_step conditions limit exchange event.1 event.2
  refine ⟨?exits, ?disconnects, ?inTime, ?graced⟩
  case exits =>
    intro stillRunning
    obtain ⟨exit, among, status, exited⟩ :=
      awaits.exits (running_of_step conditions limit stillRunning)
    exact ⟨exit, exit_behind_step conditions limit stillRunning among exited, status, exited⟩
  case disconnects =>
    intro stillLinked
    have linkedBefore : exchange.isLinked = true := by
      by_contra unlinked
      rw [settles.unlinked (by simpa using unlinked)] at stillLinked
      cases stillLinked
    rcases awaits.disconnects linkedBefore with ⟨verdict, ended⟩ | ⟨parting, among, disconnected⟩
    · exact .inl ⟨verdict, ended_step conditions limit ended event.1 event.2⟩
    · rcases List.mem_cons.mp among with rfl | among
      · have known := unlinked_step_disconnected conditions limit parting.1 exchange
        rw [← disconnected, stillLinked] at known
        exact .inl (known.resolve_left nofun)
      · exact .inr ⟨parting, among, disconnected⟩
  case inTime =>
    intro deadline leaving parting among parts
    rcases stepped.leaving deadline leaving with before | ⟨stopped, rfl, runningBefore⟩
    · exact awaits.inTime deadline before parting (List.mem_cons_of_mem _ among) parts
    · rcases awaits.graced event List.mem_cons_self stopped runningBefore with
        ⟨exit, there, early, -⟩ | inTime
      · exact absurd early (Nat.not_lt.mpr (head_notLater inOrder there))
      · exact inTime parting (List.mem_cons_of_mem _ among) parts
  case graced =>
    intro stop among stopped stillRunning
    have runningBefore := running_of_step conditions limit stillRunning
    rcases awaits.graced stop (List.mem_cons_of_mem _ among) stopped runningBefore with
      ⟨exit, there, early, status, exited⟩ | inTime
    · have behind := exit_behind_step conditions limit stillRunning there exited
      exact .inl ⟨exit, behind, early, status, exited⟩
    · exact .inr fun parting there => inTime parting (List.mem_cons_of_mem _ there)

/-- Along a calm course in which the child is gone in time, a timetable is followed as it stands. -/
theorem follow_append {course : History} (undisturbed : exchange.Undisturbed)
    (calm : ∀ event ∈ course, event.2.isCalm = true)
    (inOrder : course.Pairwise fun earlier later => earlier.1 ≤ later.1)
    (awaits : Awaits conditions.exitGrace exchange course) (rest : History) :
    exchange.follow conditions limit child (course ++ rest) =
      (exchange.after conditions limit course).follow conditions limit child rest := by
  induction course generalizing exchange with
  | nil => rfl
  | cons event later inductionHypothesis =>
      have ⟨calmNow, calmLater⟩ := List.forall_mem_cons.mp calm
      have inTime := awaits.overdue?_eq_none undisturbed inOrder
      have stepped := undisturbed.step conditions limit event.1 calmNow
      have goesOn :=
        stepped.undisturbed.obey?_eq_none conditions limit child event.1 (later ++ rest)
      cases staged : exchange.stage with
      | ended verdict =>
          rw [undisturbed.after_of_ended conditions limit staged calm,
            follow_of_ended conditions limit child staged,
            follow_of_ended conditions limit child staged]
      | _ =>
          have unfinished : exchange.isOver = false := by rw [isOver, staged]
          rw [List.cons_append, follow_cons conditions limit child unfinished inTime goesOn]
          exact inductionHypothesis stepped.undisturbed calmLater inOrder.of_cons
            (awaits.step conditions limit undisturbed calmNow inOrder)

end Exchange

/-! ## Runs -/

section Runs

variable {conditions : Conditions} {child : Child}

/-- When a child is started, it is awaited. -/
theorem awaits_courseOf {grace : Moment} (completes : child.Completes grace) :
    Exchange.start.Awaits grace (courseOf child) where
  exits _ := (completes_courseOf completes).exit
  disconnects _ := .inr (completes_courseOf completes).disconnection
  inTime := nofun
  graced stop among stopped _ := by
    obtain ⟨moment, exits, early⟩ := completes.exits
    obtain ⟨closing, closed, -⟩ := completes.closes
    obtain ⟨stopMoment, happening⟩ := stop
    obtain rfl : happening = .undelivered .stoppedReading := stopped
    have broken : child.delivery = .broken stopMoment := by
      cases mem_courseOf.mp among with
      | stopsReading broken => exact broken
    rcases early stopMoment broken with before | ⟨inTime, closedInTime⟩
    · exact .inl ⟨(moment, .exited child.status), mem_courseOf.mpr (.exits exits), before, _, rfl⟩
    · refine .inr fun event there parts => ?_
      cases mem_courseOf.mp there with
      | exits known =>
          obtain rfl := Option.some.inj (exits.symm.trans known)
          exact inTime
      | disconnects known =>
          simp only [disconnectionOf, broken, closed, Option.map_some] at known
          obtain rfl := Option.some.inj known
          exact Nat.max_le.mpr ⟨Nat.le_add_right _ _, closedInTime closing closed⟩
      | takes | stopsReading | writes | closes => cases parts

/-- The exchange with a child that completes within the limit is finished, with the report of the
child's output. -/
theorem exchangeWith_of_completes (limit : Json) {moment : Option Moment}
    (faultless : conditions.fault = none) (uncancelled : conditions.cancelled = none)
    (completes : child.Completes conditions.exitGrace)
    (inTime : ∀ event, Does child event → ∀ last, moment = some last → event.1 < last) :
    (exchangeWith conditions limit moment child).stage = .ended .finished ∧
      (exchangeWith conditions limit moment child).listening.report =
        (Listening.decoded conditions.source child.chunks.flatten).report := by
  have course := completes_courseOf completes
  have finished := Exchange.finished_with_report conditions limit course
  have followed : exchangeWith conditions limit moment child =
      Exchange.start.after conditions limit (courseOf child) := by
    rw [exchangeWith, timetable_of_inTime faultless uncancelled inTime,
      Exchange.follow_append conditions limit child Exchange.start_undisturbed course.calm
        (courseOf_inOrder child) (awaits_courseOf completes),
      Exchange.follow_of_ended conditions limit child finished.1]
  rw [followed]
  exact finished

/-- The run with a child comes to its end: both pipes can be read, nothing interrupts it, and the
child completes within the time limit. -/
structure ComesToEnd (conditions : Conditions) (limit : Json) (child : Child) : Prop where
  faultless : conditions.fault = none
  uncancelled : conditions.cancelled = none
  completes : child.Completes conditions.exitGrace
  inTime : ∃ allowed, limitOf limit = .ok allowed ∧
    ∀ event, Does child event → allowed.Allows event.1

/-- A run that comes to its end gives the frozen report of the child's output. -/
theorem runChild_of_comesToEnd (command : List String) {limit : Json} {source : Source}
    {text : List UInt8} (encoded : source.encode = .ok text) {behave : List UInt8 → Child}
    (comes : ComesToEnd conditions limit (behave text)) :
    (runChild conditions command limit source behave).ending =
      .report (Listening.decoded conditions.source (behave text).chunks.flatten).report.freeze := by
  obtain ⟨allowed, limited, inTime⟩ := comes.inTime
  have ended : ∀ (moment : Option Moment) (counting : Json),
      (∀ event, Does (behave text) event → ∀ last, moment = some last → event.1 < last) →
      (exchangeWith conditions counting moment (behave text)).ending command counting =
        .report (Listening.decoded conditions.source
          (behave text).chunks.flatten).report.freeze := by
    intro moment counting early
    have ⟨finished, report⟩ := exchangeWith_of_completes counting comes.faultless
      comes.uncancelled comes.completes early
    rw [Exchange.ending, finished, report]
  simp only [runChild, limitOf_counting, limited, encoded]
  cases allowed with
  | unlimited => exact ended none _ nofun
  | after last =>
      refine ended (some last) _ fun event does _ same => ?_
      obtain rfl := Option.some.inj same
      exact inTime event does
  | expired =>
      obtain ⟨moment, exits, -⟩ := comes.completes.exits
      exact (inTime _ (.exits exits)).elim

/-- A run whose command is started ends as the run of the child does. -/
theorem ending_run {launch : Launch.Launcher} {host : Host} {config : Config} {items : List Json}
    (built : Launch.command host config = .ok items) {name : Source} {arguments : List Source}
    (words : wordsOf items = .ok (name :: arguments)) {behave : List UInt8 → Child}
    (started : launch host name arguments = .ok behave) (source : Source) :
    (run launch host config conditions source).ending =
      (runChild conditions ((name :: arguments).map Source.shown) config.timeout source
        behave).ending := by
  simp only [run, built, words, runCommand, started]
  rfl

end Runs

end Run

end LintClient
