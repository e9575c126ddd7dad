import LintClient.Proofs.Run.Output

/-!
# Children that linger

A child that has stopped reading is given some time until it is gone. To exit in that time is not
enough: as long as other processes hold its pipes it is not gone. A child that lingers in this way
makes the run fail, whatever it has written (`Exchange.follow_of_lingering`), and only if it does
not linger is its output reported (`report_of_output`).
-/

namespace LintClient

namespace Launch

/-- A child that stops reading at a moment and exits within the time that it is given then, while
its pipes stay open for longer. -/
structure Child.Lingers (child : Child) (grace broken : Moment) : Prop where
  stops : child.delivery = .broken broken
  exits : ∃ moment, child.exit = some moment ∧ broken ≤ moment ∧ moment ≤ broken + grace
  staysOpen : ∀ closed, child.closed = some closed → broken + grace < closed

end Launch

namespace Run

open Launch (Moment Child)
open Text (Source)

namespace Exchange

variable (conditions : Conditions) (limit : Json) (child : Child) {exchange : Exchange}

/-! ## Waiting for a child that lingers -/

/-- An exchange that waits for the end of the delivery, with a child that has not exited and pipes
that are connected, still does so after anything else. -/
theorem delivering_step (delivering : exchange.stage = .delivering)
    (running : exchange.status = none)
    (linked : exchange.isLinked = true) (now : Moment) {happening : Happening}
    (calm : happening.isCalm = true) (goesOn : happening ≠ .delivered)
    (reads : happening ≠ .undelivered .stoppedReading) (parts : happening.isParting = false) :
    (exchange.step conditions limit now happening).stage = .delivering ∧
      (exchange.step conditions limit now happening).status = none ∧
      (exchange.step conditions limit now happening).isLinked = true := by
  cases happening with
  | delivered => exact absurd rfl goesOn
  | undelivered fault => cases fault <;> first | exact absurd rfl reads | cases calm
  | arrived arrival =>
      cases arrival <;> simp only [step] <;> split <;> exact ⟨delivering, running, linked⟩
  | ended pipe =>
      cases pipe <;> simp only [step] <;> split
      · simp [resume, leave, delivering, running, linked]
      · exact ⟨delivering, running, linked⟩
      · simp [resume, leave, delivering, running, linked]
      · exact ⟨delivering, running, linked⟩
  | exited status => cases parts
  | disconnected => cases parts
  | unreadable fault => cases calm
  | graceOver => cases calm
  | interrupted interruption => cases calm

/-- An exchange that waits for a child to be gone still does so as long as its pipes are
connected. -/
theorem leaving_step {deadline : Moment} (leaving : exchange.stage = .leaving deadline)
    (linked : exchange.isLinked = true) (now : Moment) {happening : Happening}
    (calm : happening.isCalm = true) (stays : happening ≠ .disconnected) :
    (exchange.step conditions limit now happening).stage = .leaving deadline ∧
      (exchange.step conditions limit now happening).isLinked = true := by
  cases happening with
  | delivered => simp [step, leaving, linked]
  | undelivered fault => simp [step, leaving, linked]
  | arrived arrival => cases arrival <;> simp only [step] <;> split <;> exact ⟨leaving, linked⟩
  | ended pipe =>
      cases pipe <;> simp only [step] <;> split
      · simp [resume, leave, leaving, linked]
      · exact ⟨leaving, linked⟩
      · simp [resume, leave, leaving, linked]
      · exact ⟨leaving, linked⟩
  | exited status =>
      simp only [step]
      split
      · exact ⟨leaving, linked⟩
      · simp [exit, wake, leaving, linked]
  | disconnected => exact absurd rfl stays
  | unreadable fault => cases calm
  | graceOver => cases calm
  | interrupted interruption => cases calm

/-- Up to the moment at which a child stops reading, nothing else than that ends the delivery. -/
theorem follow_of_delivering {earlier : History} (delivering : exchange.stage = .delivering)
    (running : exchange.status = none) (linked : exchange.isLinked = true)
    (neutral : ∀ event ∈ earlier, event.2.isCalm = true ∧ event.2 ≠ .delivered ∧
      event.2 ≠ .undelivered .stoppedReading ∧ event.2.isParting = false)
    (rest : History) : ∃ current : Exchange, current.stage = .delivering ∧ current.status = none ∧
      current.isLinked = true ∧ exchange.follow conditions limit child (earlier ++ rest) =
        current.follow conditions limit child rest := by
  induction earlier generalizing exchange with
  | nil => exact ⟨exchange, delivering, running, linked, rfl⟩
  | cons event later inductionHypothesis =>
      have ⟨⟨calm, goesOn, reads, parts⟩, laterNeutral⟩ := List.forall_mem_cons.mp neutral
      obtain ⟨stage, status, isLinked⟩ := delivering_step conditions limit delivering running linked
        event.1 calm goesOn reads parts
      have unfinished : exchange.isOver = false := by rw [isOver, delivering]
      have untimed : exchange.overdue? (some event.1) = none := by
        simp [overdue?, delivering, Stage.deadline?]
      have goesOn : (exchange.step conditions limit event.1 event.2).obey? conditions limit child
          event.1 (later ++ rest) = none := by
        simp [obey?, obedience?, stage]
      rw [List.cons_append, follow_cons conditions limit child unfinished untimed goesOn]
      exact inductionHypothesis stage status isLinked laterNeutral

/-- The delivery to a child that stops reading while it has not exited is over, and from then on the
exchange waits for the child to be gone. -/
theorem follow_of_stoppedReading (delivering : exchange.stage = .delivering)
    (running : exchange.status = none) (moment : Moment) (rest : History) :
    exchange.follow conditions limit child ((moment, .undelivered .stoppedReading) :: rest) =
      { exchange with stage := .leaving (moment + conditions.exitGrace) }.follow conditions limit
        child rest := by
  simp [follow, isOver, delivering, overdue?, Stage.deadline?, obey?, obedience?, step,
    failDelivery, running]

/-- When the time is over that a child was given which has exited, the run has failed. -/
theorem overrun_of_exited {deadline : Moment} (leaving : exchange.stage = .leaving deadline)
    (exited : exchange.status.isSome) (rest : History) :
    (exchange.overrun conditions limit child deadline rest).stage =
      .ended (.stopped .undelivered) := by
  have ended : (exchange.step conditions limit deadline .graceOver).stage =
      .ended (.stopped .undelivered) := by
    simp [step, insist, leaving, stop, note, exited, conclude]
  simp [overrun, obey?, obedience?, ended]

/-- The time that a child was given is over when the deadline has passed. -/
theorem overdue?_of_leaving {deadline : Moment} (leaving : exchange.stage = .leaving deadline)
    (moment : Option Moment) : exchange.overdue? moment =
      if moment.any (· ≤ deadline) then none else some deadline := by
  simp only [overdue?, leaving, Stage.deadline?, Option.filter_some]
  cases moment.any (· ≤ deadline) <;> rfl

/-- A child that exits while the exchange waits for it, but whose pipes stay connected up to the
deadline, makes the run fail. -/
theorem follow_of_lingering {deadline : Moment} (leaving : exchange.stage = .leaving deadline)
    (linked : exchange.isLinked = true) {timetable : History}
    (inOrder : timetable.Pairwise fun earlier later => earlier.1 ≤ later.1)
    (early : ∀ event ∈ timetable, event.1 ≤ deadline →
      event.2.isCalm = true ∧ event.2 ≠ .disconnected)
    (exits : exchange.status = none →
      ∃ event ∈ timetable, event.1 ≤ deadline ∧ ∃ status, event.2 = .exited status) :
    (exchange.follow conditions limit child timetable).stage = .ended (.stopped .undelivered) := by
  induction timetable generalizing exchange with
  | nil =>
      have exited : exchange.status.isSome := by
        rw [Option.isSome_iff_ne_none]
        intro running
        obtain ⟨event, among, -⟩ := exits running
        cases among
      have overdue : exchange.overdue? none = some deadline := overdue?_of_leaving leaving none
      rw [follow, overdue]
      exact overrun_of_exited conditions limit child leaving exited []
  | cons event later inductionHypothesis =>
      have unfinished : exchange.isOver = false := by rw [isOver, leaving]
      by_cases inTime : event.1 ≤ deadline
      · obtain ⟨calm, stays⟩ := early event List.mem_cons_self inTime
        obtain ⟨stage, isLinked⟩ := leaving_step conditions limit leaving linked event.1 calm stays
        have untimed : exchange.overdue? (some event.1) = none := by
          simp [overdue?_of_leaving leaving, inTime]
        have goesOn : (exchange.step conditions limit event.1 event.2).obey? conditions limit child
            event.1 later = none := by
          simp [obey?, obedience?, stage]
        rw [follow_cons conditions limit child unfinished untimed goesOn]
        refine inductionHypothesis stage isLinked inOrder.of_cons
          (fun other among => early other (List.mem_cons_of_mem _ among)) fun running => ?_
        obtain ⟨exit, among, exitsInTime, status, exited⟩ :=
          exits (running_of_step conditions limit running)
        have behind := exit_behind_step conditions limit running among exited
        exact ⟨exit, behind, exitsInTime, status, exited⟩
      · -- What comes next is too late, so the exit was before it.
        have exited : exchange.status.isSome := by
          rw [Option.isSome_iff_ne_none]
          intro running
          obtain ⟨exit, among, exitsInTime, -⟩ := exits running
          exact inTime (Nat.le_trans (head_notLater inOrder among) exitsInTime)
        simp only [follow, unfinished, overdue?_of_leaving leaving, Option.any_some, inTime,
          decide_false, Bool.false_eq_true, if_false]
        exact overrun_of_exited conditions limit child leaving exited (event :: later)

end Exchange

/-! ## The timetable of a child that lingers -/

section Timetables

variable {conditions : Conditions} {moment : Option Moment} {child : Child}

/-- Whether a happening decides whether an exchange waits for a child to be gone. -/
def Happening.isDecisive : Happening → Bool
  | .delivered | .undelivered _ | .exited _ => true
  | _ => false

/-- A timetable is in the order of its moments. -/
theorem timetable_inOrder (conditions : Conditions) (moment : Option Moment) (child : Child) :
    (timetable conditions moment child).Pairwise fun earlier later => earlier.1 ≤ later.1 :=
  (List.pairwise_mergeSort notLater_trans notLater_total _).imp of_decide_eq_true

/-- A child that stops reading and exits later does nothing else that is decisive. -/
theorem decisive_timetable {broken exit : Moment} (stops : child.delivery = .broken broken)
    (exits : child.exit = some exit) (later : broken ≤ exit) :
    (timetable conditions moment child).filter (·.2.isDecisive) =
      [(broken, .undelivered .stoppedReading), (exit, .exited child.status)] := by
  have intrusive : (intrusions conditions moment).filter (·.2.isDecisive) = [] := by
    refine List.filter_eq_nil_iff.mpr fun event among => ?_
    cases mem_intrusions.mp among <;> simp [Happening.isDecisive]
  have decisive : (intrusions conditions moment ++ lifeOf child).filter (·.2.isDecisive) =
      [(broken, .undelivered .stoppedReading), (exit, .exited child.status)] := by
    simp only [lifeOf, stops, exits, List.filter_append, intrusive]
    cases child.closed <;> cases disconnectionOf child <;>
      simp [List.filter_map, Happening.isDecisive, Function.comp_def]
  -- The two are in order already, so the order of moments leaves them so.
  have part : [(broken, .undelivered .stoppedReading), (exit, .exited child.status)].Sublist
      (timetable conditions moment child) := by
    refine List.sublist_mergeSort notLater_trans notLater_total ?_ (decisive ▸ List.filter_sublist)
    simpa [notLater] using later
  have kept := part.filter (·.2.isDecisive)
  have counted : ((timetable conditions moment child).filter (·.2.isDecisive)).length = 2 := by
    rw [timetable, ((List.mergeSort_perm _ _).filter _).length_eq, decisive]
    rfl
  exact (kept.eq_of_length counted.symm).symm

/-- Up to the end of its time, nothing disturbs the run with a child that lingers, and its pipes are
connected. -/
theorem isCalm_of_lingers {grace broken : Moment} (lingers : child.Lingers grace broken)
    (faultless : conditions.fault = none) (uncancelled : conditions.cancelled = none)
    (inTime : ∀ last, moment = some last → broken + grace < last) {event : Moment × Happening}
    (among : event ∈ timetable conditions moment child) (early : event.1 ≤ broken + grace) :
    event.2.isCalm = true ∧ event.2 ≠ .disconnected := by
  rcases mem_timetable.mp among with intrudes | does
  · cases intrudes with
    | fault faulty => cases faultless.symm.trans faulty
    | timeout limited => exact absurd early (Nat.not_le.mpr (inTime _ limited))
    | cancellation cancelled => cases uncancelled.symm.trans cancelled
  · refine ⟨does.isCalm, ?_⟩
    cases does with
    | disconnects disconnected =>
        simp only [disconnectionOf, lingers.stops, Option.map_eq_some_iff] at disconnected
        obtain ⟨closed, isClosed, rfl⟩ := disconnected
        have late := Nat.lt_of_lt_of_le (lingers.staysOpen closed isClosed)
          (Nat.le_max_right broken closed)
        exact absurd early (Nat.not_le.mpr late)
    | takes | stopsReading | writes | closes | exits => exact Happening.noConfusion

/-- The exchange with a child that lingers beyond its time fails. -/
theorem exchangeWith_of_lingers (limit : Json) (faultless : conditions.fault = none)
    (uncancelled : conditions.cancelled = none) {broken : Moment}
    (lingers : child.Lingers conditions.exitGrace broken)
    (inTime : ∀ last, moment = some last → broken + conditions.exitGrace < last) :
    (exchangeWith conditions limit moment child).stage = .ended (.stopped .undelivered) := by
  obtain ⟨exit, exits, later, exitsInTime⟩ := lingers.exits
  have calm := fun event => @isCalm_of_lingers conditions moment child _ broken lingers faultless
    uncancelled inTime event
  obtain ⟨earlier, rest, parts, neutral, -, decisive⟩ :=
    List.filter_eq_cons_iff.mp (decisive_timetable lingers.stops exits later)
  have inOrder := timetable_inOrder conditions moment child
  rw [parts] at inOrder calm
  obtain ⟨-, restInOrder, before⟩ := List.pairwise_append.mp inOrder
  have exitsLater : (exit, .exited child.status) ∈ rest := by
    refine List.mem_of_mem_filter (p := (·.2.isDecisive)) ?_
    rw [decisive]
    exact List.mem_singleton_self _
  have quiet : ∀ event ∈ earlier, event.2.isCalm = true ∧ event.2 ≠ .delivered ∧
      event.2 ≠ .undelivered .stoppedReading ∧ event.2.isParting = false := by
    intro event among
    have inTime : event.1 ≤ broken + conditions.exitGrace :=
      Nat.le_add_right_of_le (before event among _ List.mem_cons_self)
    have ⟨isCalm, stays⟩ := calm event (List.mem_append_left _ among) inTime
    have indecisive := neutral event among
    obtain ⟨now, happening⟩ := event
    cases happening <;> simp_all [Happening.isDecisive, Happening.isParting]
  obtain ⟨current, delivering, running, linked, followed⟩ :=
    @Exchange.follow_of_delivering conditions limit child .start earlier rfl rfl rfl quiet
      ((broken, .undelivered .stoppedReading) :: rest)
  rw [exchangeWith, parts, followed,
    Exchange.follow_of_stoppedReading conditions limit child delivering running]
  have stillLinked : { current with stage := .leaving (broken + conditions.exitGrace) }.isLinked =
    true := linked
  exact Exchange.follow_of_lingering conditions limit child rfl stillLinked restInOrder.of_cons
    (fun event among => calm event (List.mem_append_right _ (List.mem_cons_of_mem _ among)))
    fun _ => ⟨_, exitsLater, exitsInTime, child.status, rfl⟩

end Timetables

/-! ## Runs -/

/-- A run with a child that lingers beyond its time fails. -/
theorem runChild_of_lingers {conditions : Conditions} (command : List String) {limit : Json}
    {source : Source} {text : List UInt8} (encoded : source.encode = .ok text)
    {behave : List UInt8 → Child} (faultless : conditions.fault = none)
    (uncancelled : conditions.cancelled = none) {broken : Moment}
    (lingers : (behave text).Lingers conditions.exitGrace broken) {allowed : Limit}
    (limited : limitOf limit = .ok allowed)
    (inTime : allowed.Allows (broken + conditions.exitGrace)) :
    (runChild conditions command limit source behave).ending =
      .failed (.ofCommand .write command undeliveredMessage) := by
  have ended : ∀ (moment : Option Moment) (counting : Json),
      (∀ last, moment = some last → broken + conditions.exitGrace < last) →
      (exchangeWith conditions counting moment (behave text)).ending command counting =
        .failed (.ofCommand .write command undeliveredMessage) := by
    intro moment counting early
    rw [Exchange.ending, exchangeWith_of_lingers counting faultless uncancelled lingers early]
    rfl
  simp only [runChild, limitOf_counting, limited, encoded]
  cases allowed with
  | unlimited => exact ended none _ fun _ same => absurd same (Option.some_ne_none _).symm
  | after last =>
      refine ended (some last) _ fun _ same => ?_
      obtain rfl := Option.some.inj same
      exact inTime
  | expired => exact inTime.elim

/-- What a run reports depends on the output of its child alone. In whatever order things happen to
an exchange, once nothing is missing it has finished with the report of the output that the chunks
make up. A run that comes to its end gives the frozen report of the whole output: in whatever chunks
that comes, whatever the child writes about itself, whatever its exit status, and whether it takes
its text or stops reading and is gone in time. So does a run that starts its child itself. But if
the child stops reading and exits in time while its pipes stay open for longer, the run fails,
whatever the output is. -/
theorem report_of_output (conditions : Conditions) (limit : Json) :
    (∀ (history : History) (chunks : List (List UInt8)), Exchange.Completes history chunks →
      (Exchange.start.after conditions limit history).stage = .ended .finished ∧
        (Exchange.start.after conditions limit history).listening.report =
          (Listening.decoded conditions.source chunks.flatten).report) ∧
    (∀ (command : List String) (source : Source) (text : List UInt8)
      (behave : List UInt8 → Child), source.encode = .ok text →
      ComesToEnd conditions limit (behave text) →
        (runChild conditions command limit source behave).ending =
          .report (Listening.decoded conditions.source
            (behave text).chunks.flatten).report.freeze) ∧
    (∀ (launch : Launch.Launcher) (host : Host) (config : Config) (items : List Json)
      (name : Source) (arguments : List Source) (source : Source) (text : List UInt8)
      (behave : List UInt8 → Child), Launch.command host config = .ok items →
      wordsOf items = .ok (name :: arguments) → launch host name arguments = .ok behave →
      source.encode = .ok text → ComesToEnd conditions config.timeout (behave text) →
        (run launch host config conditions source).ending =
          .report (Listening.decoded conditions.source
            (behave text).chunks.flatten).report.freeze) ∧
    ∀ (command : List String) (source : Source) (text : List UInt8) (behave : List UInt8 → Child)
      (broken : Moment) (allowed : Limit), source.encode = .ok text → conditions.fault = none →
      conditions.cancelled = none → (behave text).Lingers conditions.exitGrace broken →
      limitOf limit = .ok allowed → allowed.Allows (broken + conditions.exitGrace) →
        (runChild conditions command limit source behave).ending =
          .failed (.ofCommand .write command undeliveredMessage) := by
  refine ⟨fun _ _ completes => Exchange.finished_with_report conditions limit completes,
    fun command _ _ _ encoded comes => runChild_of_comesToEnd command encoded comes, ?_,
    fun command _ _ _ _ _ encoded faultless uncancelled lingers limited inTime =>
      runChild_of_lingers command encoded faultless uncancelled lingers limited inTime⟩
  intro launch host config items name arguments source text behave built words started encoded comes
  rw [ending_run built words started]
  exact runChild_of_comesToEnd _ encoded comes

/-- A child that stops reading, complains, writes half a record in two chunks and fails. -/
def failingChild : Child where
  arrivals := [(1, .output [0x7B, 0x22]), (2, .message [0x21]), (3, .output [0x61])]
  delivery := .broken 1
  closed := some 3
  exit := some 4
  status := 1
  obeysTermination := false
  holders := []
  files := []

/-- The output of such a child is read to its end, where there is no newline. -/
theorem report_of_failingChild :
    (runChild (.usual "7") ["lint"] (.int 0) [.char 'a'] fun _ => failingChild).ending =
      .report (Listening.decoded "Linter:7" [0x7B, 0x22, 0x61]).report.freeze := by
  have completes : failingChild.Completes 1000000 :=
    ⟨by decide, ⟨3, rfl, by decide⟩, nofun,
      ⟨4, rfl, by rintro _ ⟨⟩; exact .inr ⟨by decide, by rintro _ ⟨⟩; decide⟩⟩⟩
  exact (report_of_output (.usual "7") (.int 0)).2.1 ["lint"] [.char 'a'] [0x61]
    (fun _ => failingChild) rfl ⟨rfl, rfl, completes, .unlimited, rfl, fun _ _ => trivial⟩

/-- A child that stops reading at once, writes an error and exits, while a program that it has
started holds its pipes for another second. -/
def lingeringChild : Child where
  arrivals := [(0, .output "\x7b\"type\":\"error\",\"error\":\"x\"\x7d\n".toUTF8.toList)]
  delivery := .broken 0
  closed := some 1400000
  exit := some 300000
  status := 0
  obeysTermination := true
  holders := [(0, some 1400000)]
  files := []

/-- So it is not enough that a child which has stopped reading exits in time. -/
theorem not_every_exit_in_time_gives_report :
    ¬ ∀ (child : Child) (closed exit : Moment), child.closed = some closed →
      (∀ event ∈ child.arrivals, event.1 ≤ closed) → child.exit = some exit →
      child.delivery = .broken 0 → exit ≤ (Conditions.usual "7").exitGrace →
        (runChild (.usual "7") ["lint"] (.int 0) [.char 'a'] fun _ => child).ending =
          .report (Listening.decoded "Linter:7" child.chunks.flatten).report.freeze := by
  intro reported
  have gives := reported lingeringChild 1400000 300000 rfl (by decide) rfl rfl (by decide)
  have lingers : lingeringChild.Lingers 1000000 0 :=
    ⟨rfl, ⟨300000, rfl, by decide, by decide⟩, by rintro _ ⟨⟩; decide⟩
  have fails := @runChild_of_lingers (.usual "7") ["lint"] (.int 0) [.char 'a'] [0x61] rfl
    (fun _ => lingeringChild) rfl rfl 0 lingers .unlimited rfl trivial
  cases gives.symm.trans fails

end Run

end LintClient
