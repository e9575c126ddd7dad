import LintClient.Proofs.Run.Isolation
import LintClient.Proofs.Run.Operations

/-!
# Exchanges that nothing disturbs

A history is calm if no pipe fails, nothing interrupts the run and no child keeps it waiting for too
long; that a child stops reading does not disturb anything. In whatever order calm things happen, an
exchange comes to its end once the delivery has ended, both pipes have come to their ends and the
child is gone (`finished_after`), and what it has heard of the output is what the decoder gives for
the chunks and their end (`heard_after`).
-/

namespace LintClient.Run

open Launch (Moment Child)

/-- What a happening is to the decoder. -/
def Happening.outputCall? : Happening → Option OutputCall
  | .arrived (.output bytes) => some (.feed bytes)
  | .ended .output => some .close
  | _ => none

/-- Only the end of the output is told to the decoder as its end. -/
theorem Happening.outputCall?_eq_close {happening : Happening} :
    happening.outputCall? = some .close ↔ happening = .ended .output := by
  cases happening with
  | ended pipe => cases pipe <;> simp [outputCall?]
  | arrived arrival => cases arrival <;> simp [outputCall?]
  | _ => simp [outputCall?]

/-- What a history is to the decoder. -/
def outputCalls (history : History) : List OutputCall :=
  history.filterMap fun event => event.2.outputCall?

/-- The calls of a history are that of its first event, if any, and those of the later ones. -/
theorem outputCalls_cons (event : Moment × Happening) (later : History) :
    outputCalls (event :: later) = event.2.outputCall?.toList ++ outputCalls later := by
  cases called : event.2.outputCall? <;> simp [outputCalls, called]

/-- Whether a happening leaves a run undisturbed. -/
def Happening.isCalm : Happening → Bool
  | .undelivered .stoppedReading => true
  | .undelivered _ | .unreadable _ | .graceOver | .interrupted _ => false
  | _ => true

namespace Listening

/-- What has been heard of the output does not depend on what has been recorded. -/
theorem heard_call_congr (source : String) {listening other : Listening}
    (same : listening.heard = other.heard) (call : OutputCall) :
    (listening.call source call).heard = (other.call source call).heard := by
  obtain ⟨sameDecoder, sameReport⟩ := Prod.mk.inj same
  cases call <;> simp only [Listening.call, take, heard, sameDecoder, sameReport]

/-- What has been heard after calls depends on what had been heard before them only. -/
theorem heard_calls_congr (source : String) (calls : List OutputCall)
    {listening other : Listening} (same : listening.heard = other.heard) :
    (calls.foldl (call source) listening).heard = (calls.foldl (call source) other).heard := by
  induction calls generalizing listening other with
  | nil => exact same
  | cons next later inductionHypothesis =>
      exact inductionHypothesis (heard_call_congr source same next)

/-- A call leaves an open report open. -/
@[simp] theorem frozen_call (source : String) (listening : Listening) (call : OutputCall) :
    (listening.call source call).report.frozen = listening.report.frozen := by
  cases call <;> rfl

end Listening

namespace Exchange

variable (conditions : Conditions) (limit : Json) {exchange : Exchange}

/-! ## Hearing the output -/

/-- What a step hears of the output while the report is open. -/
theorem heard_step (opened : exchange.listening.report.frozen = false) (now : Moment)
    (happening : Happening) :
    (exchange.step conditions limit now happening).listening.heard =
      match happening.outputCall? with
      | some call =>
        if exchange.readsOutput then (exchange.listening.call conditions.source call).heard
        else exchange.listening.heard
      | none => exchange.listening.heard := by
  refine (exchange.onward_step conditions limit now happening).heard.trans ?_
  cases happening with
  | arrived arrival =>
      cases arrival with
      | output bytes =>
          simp only [noticing, Happening.outputCall?, Listening.hear_output opened]
          split <;> rfl
      | message bytes =>
          simp only [noticing, Happening.outputCall?]
          split <;> rfl
  | ended pipe =>
      cases pipe with
      | output =>
          simp only [noticing, Happening.outputCall?, Listening.close_eq_call opened]
          split
          · exact (onward_leave _ _).heard
          · rfl
      | message =>
          simp only [noticing, Happening.outputCall?]
          split
          · exact (onward_leave _ _).heard
          · rfl
  | unreadable fault =>
      simp only [noticing, Happening.outputCall?]
      split
      · exact (onward_leave _ _).heard
      · rfl
  | exited status =>
      simp only [noticing, Happening.outputCall?]
      split <;> rfl
  | disconnected =>
      simp only [noticing, Happening.outputCall?]
      split <;> rfl
  | delivered | undelivered | graceOver | interrupted => rfl

/-- Steps leave an open report open. -/
theorem opened_step (opened : exchange.listening.report.frozen = false) (now : Moment)
    (happening : Happening) :
    (exchange.step conditions limit now happening).listening.report.frozen = false := by
  have heard := congrArg (fun heard => heard.2.frozen)
    (heard_step conditions limit opened now happening)
  refine heard.trans ?_
  split
  · split
    · rename_i call _ _
      exact (Listening.frozen_call conditions.source exchange.listening call).trans opened
    · exact opened
  · exact opened

/-- Once the output is left, nothing of it is heard any more. -/
theorem heard_after_left (opened : exchange.listening.report.frozen = false)
    (left : exchange.readsOutput = false) (history : History) :
    (exchange.after conditions limit history).listening.heard = exchange.listening.heard := by
  induction history generalizing exchange with
  | nil => rfl
  | cons event later inductionHypothesis =>
      have unheard : (exchange.step conditions limit event.1 event.2).listening.heard =
          exchange.listening.heard := by
        rw [heard_step conditions limit opened]
        split
        · rw [if_neg (by simp [left])]
        · rfl
      have stillLeft := (settles_step conditions limit exchange event.1 event.2).left .output left
      exact (inductionHypothesis
        (opened_step conditions limit opened event.1 event.2) stillLeft).trans unheard

/-! ## What calm steps do -/

/-- An exchange that nothing has disturbed: no pipe has failed, and it waits for what has not come
yet. -/
structure Undisturbed (exchange : Exchange) : Prop where
  faultless : exchange.readFault = none
  waits : match exchange.stage with
    | .delivering => True
    | .leaving _ => exchange.isGone = false
    | .reading => exchange.isRead = false
    | .waiting => exchange.isRead = true ∧ exchange.isGone = false
    | .stopping _ _ => False
    | .ended verdict => verdict = .finished ∧ exchange.isRead = true ∧ exchange.status.isSome

/-- To go on calmly: pipes are read as before, and the exchange waits for no one to leave. -/
structure GoesOn (before after : Exchange) : Prop where
  undisturbed : after.Undisturbed
  reads : ∀ pipe, after.reads pipe = before.reads pipe
  stays : ∀ deadline, after.stage ≠ .leaving deadline

/-- An exchange begins undisturbed. -/
theorem start_undisturbed : start.Undisturbed := ⟨rfl, trivial⟩

/-- Without a fault, a pipe is still read or there is nothing more to wait for. -/
theorem isRead_of_faultless (faultless : exchange.readFault = none) :
    exchange.isRead = !(exchange.readsOutput || exchange.readsMessages) := by
  simp [isRead, faultless]

/-- Where everything is read, no reading is abandoned. -/
theorem abandon_of_isRead (read : exchange.isRead = true) : exchange.abandon = exchange :=
  if_pos read

/-- With everything read and an exit known, to finish is to go on calmly. -/
theorem goesOn_finish (faultless : exchange.readFault = none) (read : exchange.isRead = true)
    (exited : exchange.status.isSome) (status : Int) :
    exchange.GoesOn (exchange.finish conditions status) := by
  simp only [finish, conclude]
  rw [abandon_of_isRead (by exact read)]
  exact ⟨⟨faultless, rfl, read, exited⟩, fun pipe => by cases pipe <;> rfl, nofun⟩

/-- To proceed without a fault is to go on calmly. -/
theorem goesOn_proceed (faultless : exchange.readFault = none) (now : Moment) :
    exchange.GoesOn (exchange.proceed conditions now) := by
  unfold proceed
  split
  · rename_i faulty
    cases faultless.symm.trans faulty
  · rename_i faulty
    cases faultless.symm.trans faulty
  · split
    · rename_i read
      split
      · rename_i status exited
        exact goesOn_finish conditions faultless read (by rw [exited]; rfl) status
      · rename_i running
        exact ⟨⟨faultless, read, by simp [isGone, running]⟩,
          fun pipe => by cases pipe <;> rfl, nofun⟩
    · rename_i unread
      exact ⟨⟨faultless, eq_false_of_ne_true unread⟩, fun pipe => by cases pipe <;> rfl, nofun⟩

/-- What goes on from an exchange with more records goes on from the exchange. -/
theorem GoesOn.of_note {records : List LogRecord} {next : Exchange}
    (goesOn : (exchange.note records).GoesOn next) : exchange.GoesOn next :=
  ⟨goesOn.undisturbed, fun pipe => (goesOn.reads pipe).trans (by cases pipe <;> rfl), goesOn.stays⟩

/-- To proceed before everything is delivered, without a fault, is to go on calmly. -/
theorem goesOn_proceedEarly (faultless : exchange.readFault = none) (now : Moment) :
    exchange.GoesOn (exchange.proceedEarly conditions now) := by
  unfold proceedEarly
  refine GoesOn.of_note (goesOn_proceed conditions ?_ now)
  exact faultless

/-- A calm step: nothing is disturbed, no pipe is left but one that has come to its end, and the
exchange only begins to wait for a child to leave when that has stopped reading. -/
structure CalmStep (conditions : Conditions) (before : Exchange) (now : Moment)
    (happening : Happening) (after : Exchange) : Prop where
  undisturbed : after.Undisturbed
  reads : ∀ pipe, happening ≠ .ended pipe → after.reads pipe = before.reads pipe
  leaving : ∀ deadline, after.stage = .leaving deadline →
    before.stage = .leaving deadline ∨ happening = .undelivered .stoppedReading ∧
      deadline = now + conditions.exitGrace ∧ before.status = none

/-- To go on calmly is a calm step, whatever happens. -/
theorem GoesOn.calmStep {next : Exchange} (goesOn : exchange.GoesOn next) (now : Moment)
    (happening : Happening) : CalmStep conditions exchange now happening next :=
  ⟨goesOn.undisturbed, fun pipe _ => goesOn.reads pipe,
    fun deadline leaving => absurd leaving (goesOn.stays deadline)⟩

/-- What leaves an undisturbed exchange as it is, up to what has been heard, is a calm step. -/
theorem Undisturbed.calmStep_hear (undisturbed : exchange.Undisturbed) (listening : Listening)
    (now : Moment) (happening : Happening) :
    CalmStep conditions exchange now happening { exchange with listening := listening } :=
  ⟨⟨undisturbed.faultless, undisturbed.waits⟩, fun pipe _ => by cases pipe <;> rfl,
    fun _ leaving => .inl leaving⟩

/-- A calm step from an exchange that has heard more is one from the exchange. -/
theorem CalmStep.of_hear {listening : Listening} {now : Moment} {happening : Happening}
    {next : Exchange}
    (calm : CalmStep conditions { exchange with listening := listening } now happening next) :
    CalmStep conditions exchange now happening next :=
  ⟨calm.undisturbed, fun pipe other => (calm.reads pipe other).trans (by cases pipe <;> rfl),
    calm.leaving⟩

/-- The end of a pipe that is still read is a calm step. -/
theorem Undisturbed.calmStep_leave (undisturbed : exchange.Undisturbed) {pipe : Pipe}
    (read : exchange.reads pipe = true) (now : Moment) :
    CalmStep conditions exchange now (.ended pipe)
      ((exchange.leave pipe).resume conditions now) := by
  have unfinished : exchange.isRead = false := by
    rw [isRead_of_faultless undisturbed.faultless]
    cases pipe <;> simp_all [Exchange.reads]
  have faultless : (exchange.leave pipe).readFault = none := by
    cases pipe <;> exact undisturbed.faultless
  have sameStage : (exchange.leave pipe).stage = exchange.stage := by cases pipe <;> rfl
  have sameStatus : (exchange.leave pipe).status = exchange.status := by cases pipe <;> rfl
  have sameGone : (exchange.leave pipe).isGone = exchange.isGone := by cases pipe <;> rfl
  have others : ∀ other, Happening.ended pipe ≠ .ended other →
      (exchange.leave pipe).reads other = exchange.reads other := by
    intro other different
    cases pipe <;> cases other <;> first | rfl | exact absurd rfl different
  have waits := undisturbed.waits
  unfold resume
  split
  · have goesOn := goesOn_proceed conditions faultless now
    exact ⟨goesOn.undisturbed, fun other different =>
      (goesOn.reads other).trans (others other different),
      fun deadline leaving => absurd leaving (goesOn.stays deadline)⟩
  · rename_i elsewhere
    rw [sameStage] at elsewhere
    refine ⟨⟨faultless, ?_⟩, others, fun _ leaving => .inl (sameStage ▸ leaving)⟩
    rw [sameStage, sameStatus, sameGone]
    -- With a pipe to read, an exchange is only before its reading or in it.
    cases staged : exchange.stage with
    | delivering => trivial
    | leaving deadline => simpa [staged] using waits
    | reading => exact absurd staged elsewhere
    | waiting => simp [staged, unfinished] at waits
    | stopping cause stopping => simp [staged] at waits
    | ended verdict => simp [staged, unfinished] at waits

/-- To learn something of the child's end, and nothing else. -/
structure Learns (before after : Exchange) : Prop where
  stage : after.stage = before.stage
  readFault : after.readFault = before.readFault
  reads : ∀ pipe, after.reads pipe = before.reads pipe
  exited : before.status.isSome → after.status.isSome

/-- An exit is learnt of without another change. -/
theorem learns_exit (exchange : Exchange) (status : Int) :
    exchange.Learns { exchange with status := some status } :=
  ⟨rfl, rfl, fun pipe => by cases pipe <;> rfl, fun _ => rfl⟩

/-- The end of the link to the pipes is learnt of without another change. -/
theorem learns_unlinked (exchange : Exchange) :
    exchange.Learns { exchange with isLinked := false } :=
  ⟨rfl, rfl, fun pipe => by cases pipe <;> rfl, fun known => known⟩

/-- What is learnt of the child's end does not say whether the pipes are read to their ends. -/
theorem Learns.isRead_eq {next : Exchange} (learns : exchange.Learns next) :
    next.isRead = exchange.isRead := by
  have output : next.readsOutput = exchange.readsOutput := learns.reads .output
  have messages : next.readsMessages = exchange.readsMessages := learns.reads .message
  simp only [isRead, learns.readFault, output, messages]

/-- To learn something is a calm step unless the child is gone and that was waited for. -/
theorem Undisturbed.calmStep_learn (undisturbed : exchange.Undisturbed) {next : Exchange}
    (learns : exchange.Learns next)
    (stays : next.isGone = false ∨ (∀ deadline, exchange.stage ≠ .leaving deadline) ∧
      exchange.stage ≠ .waiting) (now : Moment) (happening : Happening) :
    CalmStep conditions exchange now happening next := by
  refine ⟨⟨learns.readFault.trans undisturbed.faultless, ?_⟩, fun pipe _ => learns.reads pipe,
    fun deadline leaving => .inl (learns.stage ▸ leaving)⟩
  have waits := undisturbed.waits
  rw [learns.stage, learns.isRead_eq]
  cases staged : exchange.stage with
  | delivering => trivial
  | leaving deadline =>
      rcases stays with here | ⟨elsewhere, -⟩
      · exact here
      · exact absurd staged (elsewhere deadline)
  | reading => simpa [staged] using waits
  | waiting =>
      rw [staged] at waits
      rcases stays with here | ⟨-, elsewhere⟩
      · exact ⟨waits.1, here⟩
      · exact absurd staged elsewhere
  | stopping cause stopping => simp [staged] at waits
  | ended verdict =>
      rw [staged] at waits
      exact ⟨waits.1, waits.2.1, learns.exited waits.2.2⟩

/-- To learn something and to go on if the child is gone is a calm step. -/
theorem Undisturbed.calmStep_wake (undisturbed : exchange.Undisturbed) {next : Exchange}
    (learns : exchange.Learns next) (now : Moment) (happening : Happening) :
    CalmStep conditions exchange now happening (next.wake conditions now) := by
  have waits := undisturbed.waits
  have faultless : next.readFault = none := learns.readFault.trans undisturbed.faultless
  have goesOn : ∀ {later}, next.GoesOn later → CalmStep conditions exchange now happening later :=
    fun goesOn => ⟨goesOn.undisturbed, fun pipe _ => (goesOn.reads pipe).trans (learns.reads pipe),
      fun deadline leaving => absurd leaving (goesOn.stays deadline)⟩
  unfold wake
  split
  · rename_i running
    exact undisturbed.calmStep_learn conditions learns
      (.inl (by simp [isGone, running])) now happening
  · rename_i status exited
    split
    · rename_i linked
      exact undisturbed.calmStep_learn conditions learns
        (.inl (by simp [isGone, linked])) now happening
    · split
      · exact goesOn (goesOn_proceedEarly conditions faultless now)
      · rename_i staged
        rw [learns.stage.symm.trans staged] at waits
        have read : next.isRead = true := learns.isRead_eq.trans waits.1
        exact goesOn (goesOn_finish conditions faultless read (by rw [exited]; rfl) status)
      · rename_i staged
        rw [learns.stage.symm.trans staged] at waits
        exact waits.elim
      · rename_i notLeaving notWaiting _
        rw [learns.stage] at notLeaving notWaiting
        exact undisturbed.calmStep_learn conditions learns
          (.inr ⟨notLeaving, notWaiting⟩) now happening

/-- A failed delivery to a child that has stopped reading is a calm step. -/
theorem Undisturbed.calmStep_stoppedReading (undisturbed : exchange.Undisturbed) (now : Moment) :
    CalmStep conditions exchange now (.undelivered .stoppedReading)
      (exchange.failDelivery conditions limit now .stoppedReading) := by
  simp only [failDelivery]
  split
  · exact (goesOn_proceedEarly conditions undisturbed.faultless now).calmStep conditions now _
  · rename_i running
    refine ⟨⟨undisturbed.faultless, ?_⟩, fun pipe _ => by cases pipe <;> rfl, ?_⟩
    · simpa [isGone] using fun known => absurd known running
    · rintro _ ⟨⟩
      exact .inr ⟨rfl, rfl, by simpa using running⟩

/-- What happens calmly is a calm step. -/
theorem Undisturbed.step (undisturbed : exchange.Undisturbed) (now : Moment)
    {happening : Happening} (calm : happening.isCalm = true) :
    CalmStep conditions exchange now happening (exchange.step conditions limit now happening) := by
  have unchanged : CalmStep conditions exchange now happening exchange :=
    undisturbed.calmStep_hear conditions exchange.listening now happening
  cases happening with
  | delivered =>
      simp only [Exchange.step]
      split
      · exact (goesOn_proceed conditions undisturbed.faultless now).calmStep conditions now _
      · exact unchanged
  | undelivered fault =>
      cases fault with
      | stoppedReading =>
          simp only [Exchange.step]
          split
          · exact undisturbed.calmStep_stoppedReading conditions limit now
          · exact unchanged
      | unwritable run => cases calm
      | overdue => cases calm
      | unforeseen => cases calm
  | arrived arrival =>
      cases arrival <;> simp only [Exchange.step] <;> split
      · exact undisturbed.calmStep_hear conditions _ now _
      · exact unchanged
      · exact undisturbed.calmStep_hear conditions _ now _
      · exact unchanged
  | ended pipe =>
      cases pipe <;> simp only [Exchange.step] <;> split
      · rename_i read
        have heard := undisturbed.calmStep_hear conditions
          (exchange.listening.close conditions.source) now (.ended .output)
        exact (heard.undisturbed.calmStep_leave conditions
          (show reads _ .output = true from read) now).of_hear conditions
      · exact unchanged
      · rename_i read
        exact undisturbed.calmStep_leave conditions
          (show exchange.reads .message = true from read) now
      · exact unchanged
  | exited status =>
      simp only [Exchange.step]
      split
      · exact unchanged
      · exact undisturbed.calmStep_wake conditions (exchange.learns_exit status) now _
  | disconnected =>
      simp only [Exchange.step]
      split
      · exact unchanged
      · exact undisturbed.calmStep_wake conditions exchange.learns_unlinked now _
  | unreadable fault => cases calm
  | graceOver => cases calm
  | interrupted interruption => cases calm

/-- A calm history leaves an exchange undisturbed. -/
theorem Undisturbed.after {history : History} (undisturbed : exchange.Undisturbed)
    (calm : ∀ event ∈ history, event.2.isCalm = true) :
    (exchange.after conditions limit history).Undisturbed :=
  after_induction
    (fun _ now _ calm undisturbed => (undisturbed.step conditions limit now calm).undisturbed) calm
    undisturbed

/-! ## The end of a calm history -/

section Brought

variable (now : Moment)

/-- A pipe that has come to its end is left. -/
theorem left_step_ended (exchange : Exchange) (pipe : Pipe) :
    (exchange.step conditions limit now (.ended pipe)).reads pipe = false := by
  refine (exchange.onward_step conditions limit now (.ended pipe)).left pipe ?_
  cases pipe <;> simp only [noticing] <;> split
  · rfl
  · rename_i left
    simpa [reads] using left
  · rfl
  · rename_i left
    simpa [reads] using left

/-- An exit is known once it has happened. -/
theorem known_step_exited (exchange : Exchange) (status : Int) :
    (exchange.step conditions limit now (.exited status)).status.isSome = true := by
  rw [(exchange.onward_step conditions limit now (.exited status)).status]
  simp only [noticing]
  split
  · assumption
  · rfl

/-- An exit that the first event has not brought comes later. -/
theorem exit_behind_step {exchange : Exchange} {event exit : Moment × Happening} {later : History}
    (running : (exchange.step conditions limit event.1 event.2).status = none)
    (among : exit ∈ event :: later) {status : Int} (exited : exit.2 = .exited status) :
    exit ∈ later := by
  rcases List.mem_cons.mp among with rfl | among
  · have known := known_step_exited conditions limit exit.1 exchange status
    rw [← exited, running] at known
    cases known
  · exact among

/-- Once all pipes are disconnected, that is known, or the exchange is over. -/
theorem unlinked_step_disconnected (exchange : Exchange) :
    (exchange.step conditions limit now .disconnected).isLinked = false ∨
      ∃ verdict, (exchange.step conditions limit now .disconnected).stage = .ended verdict := by
  cases staged : exchange.stage with
  | ended verdict => exact .inr ⟨verdict, ended_step conditions limit staged now .disconnected⟩
  | _ =>
      rw [(exchange.onward_step conditions limit now .disconnected).linked]
      exact .inl (by simp [noticing, isOver, staged])

/-- To proceed is to leave the delivery behind. -/
theorem begun_proceed (exchange : Exchange) :
    (exchange.proceed conditions now).stage ≠ .delivering := by
  unfold proceed
  split
  · unfold stop
    split <;> nofun
  · nofun
  · split
    · split <;> nofun
    · nofun

/-- When everything is delivered, the delivery is left behind. -/
theorem begun_step_delivered (exchange : Exchange) :
    (exchange.step conditions limit now .delivered).stage ≠ .delivering := by
  simp only [step]
  split
  · exact begun_proceed conditions now exchange
  · assumption

/-- When the child stops reading, the delivery is left behind. -/
theorem begun_step_stoppedReading (exchange : Exchange) :
    (exchange.step conditions limit now (.undelivered .stoppedReading)).stage ≠ .delivering := by
  simp only [step]
  split
  · simp only [failDelivery]
    split
    · exact begun_proceed conditions now _
    · simp
  · assumption

end Brought

/-- A history in which nothing untoward happens and nothing is missing: the delivery ends, the
output comes in chunks up to its end, what the child writes about itself comes to its end, the child
exits, and all pipes are disconnected. -/
structure Completes (history : History) (chunks : List (List UInt8)) : Prop where
  calm : ∀ event ∈ history, event.2.isCalm = true
  output : outputCalls history = chunks.map .feed ++ [.close]
  messages : ∃ event ∈ history, event.2 = .ended .message
  delivery : ∃ event ∈ history, event.2 = .delivered ∨ event.2 = .undelivered .stoppedReading
  exit : ∃ event ∈ history, ∃ status, event.2 = .exited status
  disconnection : ∃ event ∈ history, event.2 = .disconnected

/-- Both pipes come to their ends in such a history. -/
theorem Completes.ended {history : History} {chunks : List (List UInt8)}
    (completes : Completes history chunks) (pipe : Pipe) :
    ∃ event ∈ history, event.2 = .ended pipe := by
  cases pipe with
  | message => exact completes.messages
  | output =>
      have closes : OutputCall.close ∈ outputCalls history := by simp [completes.output]
      obtain ⟨event, among, called⟩ := List.mem_filterMap.mp closes
      exact ⟨event, among, Happening.outputCall?_eq_close.mp called⟩

/-- An undisturbed exchange is finished once everything that it waits for has come. -/
theorem Undisturbed.finished (undisturbed : exchange.Undisturbed)
    (begun : exchange.stage ≠ .delivering) (left : ∀ pipe, exchange.reads pipe = false)
    (exited : exchange.status.isSome)
    (unlinked : exchange.isLinked = false ∨ ∃ verdict, exchange.stage = .ended verdict) :
    exchange.stage = .ended .finished := by
  have read : exchange.isRead = true := by
    have output : exchange.readsOutput = false := left .output
    have messages : exchange.readsMessages = false := left .message
    simp [isRead_of_faultless undisturbed.faultless, output, messages]
  have waits := undisturbed.waits
  rcases unlinked with unlinked | ⟨verdict, ended⟩
  · have gone : exchange.isGone = true := by simp [isGone, exited, unlinked]
    cases staged : exchange.stage with
    | delivering => exact absurd staged begun
    | leaving deadline => simp [staged, gone] at waits
    | reading => simp [staged, read] at waits
    | waiting => simp [staged, gone] at waits
    | stopping cause stopping => simp [staged] at waits
    | ended verdict =>
        rw [staged] at waits
        rw [waits.1]
  · rw [ended] at waits
    rw [ended, waits.1]

/-- A history that misses nothing finishes an undisturbed exchange, in whatever order things
happen. -/
theorem finished_after (undisturbed : exchange.Undisturbed) {history : History}
    {chunks : List (List UInt8)} (completes : Completes history chunks) :
    (exchange.after conditions limit history).stage = .ended .finished := by
  have settles := settles_step conditions limit
  refine (undisturbed.after conditions limit completes.calm).finished ?begun ?left ?exited ?unlinked
  case begun =>
    obtain ⟨event, among, ended⟩ := completes.delivery
    refine after_of_mem (fun current now happening => (settles current now happening).begun)
      (fun current => ?_) among exchange
    rcases ended with delivered | stopped
    · rw [delivered]
      exact begun_step_delivered conditions limit event.1 current
    · rw [stopped]
      exact begun_step_stoppedReading conditions limit event.1 current
  case left =>
    intro pipe
    obtain ⟨event, among, ended⟩ := completes.ended pipe
    refine after_of_mem (fun current now happening => (settles current now happening).left pipe)
      (fun current => ?_) among exchange
    rw [ended]
    exact left_step_ended conditions limit event.1 current pipe
  case exited =>
    obtain ⟨event, among, status, exited⟩ := completes.exit
    refine after_of_mem (motive := fun current => current.status.isSome = true)
      (fun current now happening known => ?_) (fun current => ?_) among exchange
    · rw [(settles current now happening).status known]
      exact known
    · rw [exited]
      exact known_step_exited conditions limit event.1 current status
  case unlinked =>
    obtain ⟨event, among, disconnected⟩ := completes.disconnection
    refine after_of_mem (motive := fun current => current.isLinked = false ∨
        ∃ verdict, current.stage = .ended verdict)
      (fun current now happening known => ?_) (fun current => ?_) among exchange
    · rcases known with unlinked | ⟨verdict, ended⟩
      · exact .inl ((settles current now happening).unlinked unlinked)
      · exact .inr ⟨verdict, ended_step conditions limit ended now happening⟩
    · rw [disconnected]
      exact unlinked_step_disconnected conditions limit event.1 current

/-- What is heard along a calm history is what the decoder gives for the chunks and their end. -/
theorem heard_after (undisturbed : exchange.Undisturbed) (read : exchange.readsOutput = true)
    (opened : exchange.listening.report.frozen = false) {history : History}
    (calm : ∀ event ∈ history, event.2.isCalm = true) {chunks : List (List UInt8)}
    (output : outputCalls history = chunks.map .feed ++ [.close]) :
    (exchange.after conditions limit history).listening.heard =
      ((chunks.map OutputCall.feed ++ [OutputCall.close]).foldl
        (Listening.call conditions.source) exchange.listening).heard := by
  induction history generalizing exchange chunks with
  | nil => simp [outputCalls] at output
  | cons event later inductionHypothesis =>
      have ⟨calmNow, calmLater⟩ := List.forall_mem_cons.mp calm
      obtain ⟨now, happening⟩ := event
      have stepped := undisturbed.step conditions limit now calmNow
      have stillOpen := opened_step conditions limit opened now happening
      have heard := heard_step conditions limit opened now happening
      -- Only the end of the output makes the exchange leave it.
      have goesOn : ∀ {rest : List (List UInt8)}, happening ≠ .ended .output →
          outputCalls later = rest.map .feed ++ [.close] →
          ((exchange.step conditions limit now happening).after conditions limit
              later).listening.heard =
            ((rest.map OutputCall.feed ++ [OutputCall.close]).foldl
              (Listening.call conditions.source)
              (exchange.step conditions limit now happening).listening).heard :=
        fun other output => inductionHypothesis stepped.undisturbed
          ((stepped.reads .output other).trans read) stillOpen calmLater output
      cases called : happening.outputCall? with
      | none =>
          have other : happening ≠ .ended .output := by
            rintro rfl
            cases called
          rw [called] at heard
          simp only [outputCalls_cons, called, Option.toList_none, List.nil_append] at output
          exact (goesOn other output).trans (Listening.heard_calls_congr _ _ heard)
      | some call =>
          rw [called] at heard
          simp only [read, if_true] at heard
          simp only [outputCalls_cons, called, Option.toList_some, List.singleton_append] at output
          cases chunks with
          | nil =>
              obtain ⟨rfl, -⟩ := List.cons.inj output
              obtain rfl := Happening.outputCall?_eq_close.mp called
              have left := left_step_ended conditions limit now exchange .output
              exact (heard_after_left conditions limit stillOpen left later).trans heard
          | cons chunk rest =>
              obtain ⟨rfl, further⟩ := List.cons.inj output
              have other : happening ≠ .ended .output := by
                rintro rfl
                cases called
              exact (goesOn other further).trans (Listening.heard_calls_congr _ _ heard)

/-- In whatever order it happens, a history that misses nothing ends with the report of the output
that its chunks make up. -/
theorem finished_with_report {history : History} {chunks : List (List UInt8)}
    (completes : Completes history chunks) :
    (start.after conditions limit history).stage = .ended .finished ∧
      (start.after conditions limit history).listening.report =
        (Listening.decoded conditions.source chunks.flatten).report := by
  refine ⟨finished_after conditions limit start_undisturbed completes, ?_⟩
  have heard := heard_after conditions limit start_undisturbed rfl rfl
    completes.calm completes.output
  have bytes : written (chunks.map .feed ++ [.close]) = written [.feed chunks.flatten, .close] := by
    simp [written, OutputCall.bytes, List.flatMap_map, List.flatMap_id']
  calc (start.after conditions limit history).listening.report
      = (Listening.afterCalls conditions.source .empty
          (chunks.map OutputCall.feed ++ [OutputCall.close])).report :=
        congrArg Prod.snd heard
    _ = (Listening.decoded conditions.source chunks.flatten).report := by
        rw [Listening.decoded, Listening.afterCalls_eq rfl, bytes, ← Listening.afterCalls_eq rfl]

end Exchange

end LintClient.Run
