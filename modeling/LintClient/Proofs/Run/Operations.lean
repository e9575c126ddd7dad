import LintClient.Proofs.Run.Timetable
import LintClient.Run.Basic

/-!
# Operations of an exchange

What an exchange is after a history of happenings, and what no operation takes back: what has been
heard stays heard, pipes that are left stay left, an exit stays known, pipes that are disconnected
stay so, a delivery that has ended does not begin again, and what is over stays over. Whatever each
step keeps is kept along a history (`after_induction`) and along a timetable (`follow_induction`).
-/

namespace LintClient.Run

open Launch (Moment Child)

/-- What happens to an exchange, in order. -/
abbrev History := List (Moment × Happening)

/-- What a listener has of the output of a child. -/
def Listening.heard (listening : Listening) : Protocol.Decoder × LintReport :=
  (listening.decoder, listening.report)

namespace Exchange

/-- The exchange after a history. -/
def after (conditions : Conditions) (limit : Json) (exchange : Exchange) (history : History) :
    Exchange :=
  history.foldl (fun current event => current.step conditions limit event.1 event.2) exchange

/-- The first event of a history is taken before the later ones. -/
theorem after_cons (conditions : Conditions) (limit : Json) (exchange : Exchange)
    (event : Moment × Happening) (later : History) :
    exchange.after conditions limit (event :: later) =
      (exchange.step conditions limit event.1 event.2).after conditions limit later := rfl

/-! ## Operations that hear nothing -/

/-- Nothing new has been heard or found out, and nothing has been taken back. -/
structure Onward (before after : Exchange) : Prop where
  heard : after.listening.heard = before.listening.heard
  readFault : after.readFault = before.readFault
  status : after.status = before.status
  linked : after.isLinked = before.isLinked
  left : ∀ pipe, before.reads pipe = false → after.reads pipe = false
  begun : before.stage ≠ .delivering → after.stage ≠ .delivering

/-- An exchange goes onward to itself. -/
theorem Onward.refl (exchange : Exchange) : exchange.Onward exchange :=
  ⟨rfl, rfl, rfl, rfl, fun _ left => left, fun begun => begun⟩

/-- What goes onward twice goes onward. -/
theorem Onward.trans {first second third : Exchange} (earlier : first.Onward second)
    (later : second.Onward third) : first.Onward third where
  heard := later.heard.trans earlier.heard
  readFault := later.readFault.trans earlier.readFault
  status := later.status.trans earlier.status
  linked := later.linked.trans earlier.linked
  left pipe leftBefore := later.left pipe (earlier.left pipe leftBefore)
  begun begunBefore := later.begun (earlier.begun begunBefore)

/-- A change of the stage gets on unless it goes back to the delivery. -/
theorem onward_stage (exchange : Exchange) {stage : Stage} (begun : stage ≠ .delivering) :
    exchange.Onward { exchange with stage := stage } :=
  ⟨rfl, rfl, rfl, rfl, fun pipe left => by cases pipe <;> exact left, fun _ => begun⟩

/-- Records are noted onward. -/
theorem onward_note (exchange : Exchange) (records : List LogRecord) :
    exchange.Onward (exchange.note records) :=
  ⟨rfl, rfl, rfl, rfl, fun pipe left => by cases pipe <;> exact left, fun begun => begun⟩

/-- A pipe is left onward. -/
theorem onward_leave (exchange : Exchange) (pipe : Pipe) :
    exchange.Onward (exchange.leave pipe) := by
  cases pipe <;>
    exact ⟨rfl, rfl, rfl, rfl, fun other left => by cases other <;> first | exact left | rfl,
      fun begun => begun⟩

/-- The reading is abandoned onward. -/
theorem onward_abandon (exchange : Exchange) : exchange.Onward exchange.abandon := by
  unfold abandon
  split
  · exact .refl exchange
  · exact (exchange.onward_leave .output).trans (onward_leave _ .message)

/-- An exchange is concluded onward. -/
theorem onward_conclude (exchange : Exchange) (verdict : Verdict) :
    exchange.Onward (exchange.conclude verdict) :=
  exchange.onward_abandon.trans (onward_stage _ nofun)

/-- A child is stopped onward. -/
theorem onward_stop (exchange : Exchange) (cause : StopCause) (stopping : Stopping) :
    exchange.Onward (exchange.stop cause stopping) := by
  unfold stop
  split
  · exact exchange.onward_conclude _
  · exact exchange.onward_stage nofun

section

variable (conditions : Conditions) (limit : Json) (now : Moment) (exchange : Exchange)

/-- To finish goes onward. -/
theorem onward_finish (status : Int) : exchange.Onward (exchange.finish conditions status) :=
  (exchange.onward_note _).trans (onward_conclude _ _)

/-- To proceed goes onward. -/
theorem onward_proceed : exchange.Onward (exchange.proceed conditions now) := by
  unfold proceed
  split
  · exact (exchange.onward_note _).trans (onward_stop _ _ _)
  · exact exchange.onward_conclude _
  · split
    · split
      · exact exchange.onward_finish conditions _
      · exact exchange.onward_stage nofun
    · exact exchange.onward_stage nofun

/-- To proceed early goes onward. -/
theorem onward_proceedEarly : exchange.Onward (exchange.proceedEarly conditions now) :=
  (exchange.onward_note _).trans (onward_proceed conditions now _)

/-- To resume goes onward. -/
theorem onward_resume : exchange.Onward (exchange.resume conditions now) := by
  unfold resume
  split
  · exact exchange.onward_proceed conditions now
  · exact .refl exchange

/-- A time limit is met onward. -/
theorem onward_timeOut : exchange.Onward (exchange.timeOut conditions limit now) :=
  (exchange.onward_abandon.trans (onward_note _ _)).trans (onward_stop _ _ _)

/-- A fault of the delivery is met onward. -/
theorem onward_failDelivery (fault : DeliveryFault) :
    exchange.Onward (exchange.failDelivery conditions limit now fault) := by
  cases fault with
  | stoppedReading =>
      simp only [failDelivery]
      split
      · exact exchange.onward_proceedEarly conditions now
      · exact exchange.onward_stage nofun
  | unwritable run => exact exchange.onward_conclude _
  | overdue => exact exchange.onward_timeOut conditions limit now
  | unforeseen => exact exchange.onward_conclude _

/-- To wake goes onward. -/
theorem onward_wake : exchange.Onward (exchange.wake conditions now) := by
  unfold wake
  split
  · exact .refl exchange
  · split
    · exact .refl exchange
    · split
      · exact exchange.onward_proceedEarly conditions now
      · exact exchange.onward_finish conditions _
      · exact exchange.onward_conclude _
      · exact .refl exchange

/-- An exit is taken note of, and the exchange gets on. -/
theorem onward_exit (status : Int) :
    { exchange with status := some status }.Onward (exchange.exit conditions now status) :=
  onward_wake conditions now _

/-- It is taken note of that all pipes are disconnected, and the exchange gets on. -/
theorem onward_disconnect :
    { exchange with isLinked := false }.Onward (exchange.disconnect conditions now) :=
  onward_wake conditions now _

/-- To insist on an end goes onward. -/
theorem onward_insist : exchange.Onward (exchange.insist conditions now) := by
  unfold insist
  split
  · exact (exchange.onward_note _).trans (onward_stop _ _ _)
  · exact .refl exchange
  · exact (exchange.onward_note _).trans (onward_stop _ _ _)
  · exact .refl exchange

/-- An interruption is met onward. -/
theorem onward_interrupt (interruption : Interruption) :
    exchange.Onward (exchange.interrupt conditions limit now interruption) := by
  unfold interrupt
  split <;> split
  · exact .refl exchange
  · exact .refl exchange
  · exact exchange.onward_timeOut conditions limit now
  · exact .refl exchange
  · exact exchange.onward_conclude _
  · exact (exchange.onward_note _).trans (onward_conclude _ _)

end

/-! ## Steps -/

/-- Whatever happens, nothing that is settled is taken back: pipes that are left, an exit that is
known, pipes that are disconnected, and the end of the delivery. -/
structure Settles (before after : Exchange) : Prop where
  left : ∀ pipe, before.reads pipe = false → after.reads pipe = false
  status : before.status.isSome → after.status = before.status
  unlinked : before.isLinked = false → after.isLinked = false
  begun : before.stage ≠ .delivering → after.stage ≠ .delivering

/-- To go onward takes back nothing that is settled. -/
theorem Onward.settles {before after : Exchange} (onward : before.Onward after) :
    before.Settles after :=
  ⟨onward.left, fun _ => onward.status, onward.linked.trans, onward.begun⟩

/-- What takes back nothing settled, twice, takes back nothing settled. -/
theorem Settles.trans {first second third : Exchange} (earlier : first.Settles second)
    (later : second.Settles third) : first.Settles third where
  left pipe leftBefore := later.left pipe (earlier.left pipe leftBefore)
  status known := (later.status (by rw [earlier.status known]; exact known)).trans
    (earlier.status known)
  unlinked unlinkedBefore := later.unlinked (earlier.unlinked unlinkedBefore)
  begun begunBefore := later.begun (earlier.begun begunBefore)

/-- To hear something settles nothing. -/
theorem settles_listening (exchange : Exchange) (listening : Listening) :
    exchange.Settles { exchange with listening := listening } :=
  ⟨fun pipe left => by cases pipe <;> exact left, fun _ => rfl, fun unlinked => unlinked,
    fun begun => begun⟩

/-- To note a fault of a pipe settles nothing. -/
theorem settles_readFault (exchange : Exchange) (fault : Option ReadFault) :
    exchange.Settles { exchange with readFault := fault } :=
  ⟨fun pipe left => by cases pipe <;> exact left, fun _ => rfl, fun unlinked => unlinked,
    fun begun => begun⟩

/-- To note that all pipes are disconnected settles that. -/
theorem settles_unlinked (exchange : Exchange) :
    exchange.Settles { exchange with isLinked := false } :=
  ⟨fun pipe left => by cases pipe <;> exact left, fun _ => rfl, fun _ => rfl, fun begun => begun⟩

section Steps

variable (conditions : Conditions) (limit : Json)

/-- What an exchange notices of a happening, before anything is done about it. -/
def noticing (exchange : Exchange) : Happening → Exchange
  | .arrived (.output bytes) =>
    if exchange.readsOutput then
      { exchange with listening := exchange.listening.hear conditions.source (.output bytes) }
    else exchange
  | .arrived (.message bytes) =>
    if exchange.readsMessages then
      { exchange with listening := exchange.listening.hear conditions.source (.message bytes) }
    else exchange
  | .ended .output =>
    if exchange.readsOutput then
      { exchange with listening := exchange.listening.close conditions.source }.leave .output
    else exchange
  | .ended .message => if exchange.readsMessages then exchange.leave .message else exchange
  | .unreadable fault =>
    if exchange.reads fault.pipeOf then
      { exchange with readFault := exchange.readFault <|> some fault }.leave fault.pipeOf
    else exchange
  | .exited status =>
    if exchange.status.isSome then exchange else { exchange with status := some status }
  | .disconnected => if exchange.isOver then exchange else { exchange with isLinked := false }
  | _ => exchange

/-- To notice something settles. -/
theorem settles_noticing (exchange : Exchange) (happening : Happening) :
    exchange.Settles (exchange.noticing conditions happening) := by
  have unchanged : exchange.Settles exchange := (Onward.refl exchange).settles
  unfold noticing
  split
  · split
    · exact exchange.settles_listening _
    · exact unchanged
  · split
    · exact exchange.settles_listening _
    · exact unchanged
  · split
    · exact (exchange.settles_listening _).trans (onward_leave _ _).settles
    · exact unchanged
  · split
    · exact (exchange.onward_leave _).settles
    · exact unchanged
  · split
    · exact (exchange.settles_readFault _).trans (onward_leave _ _).settles
    · exact unchanged
  · split
    · exact unchanged
    · rename_i running
      exact ⟨fun pipe left => by cases pipe <;> exact left, fun known => absurd known running,
        fun unlinked => unlinked, fun begun => begun⟩
  · split
    · exact unchanged
    · exact exchange.settles_unlinked
  · exact unchanged

/-- A step gets on from what has been noticed. -/
theorem onward_step (exchange : Exchange) (now : Moment) (happening : Happening) :
    (exchange.noticing conditions happening).Onward
      (exchange.step conditions limit now happening) := by
  cases happening with
  | delivered =>
      simp only [step, noticing]
      split
      · exact exchange.onward_proceed conditions now
      · exact .refl exchange
  | undelivered fault =>
      simp only [step, noticing]
      split
      · exact exchange.onward_failDelivery conditions limit now fault
      · exact .refl exchange
  | arrived arrival => cases arrival <;> exact .refl _
  | ended pipe =>
      cases pipe <;> simp only [step, noticing] <;> split
      · exact onward_resume conditions now _
      · exact .refl exchange
      · exact onward_resume conditions now _
      · exact .refl exchange
  | unreadable fault =>
      simp only [step, noticing]
      split
      · exact onward_resume conditions now _
      · exact .refl exchange
  | exited status =>
      simp only [step, noticing]
      split
      · exact .refl exchange
      · exact exchange.onward_exit conditions now status
  | disconnected =>
      simp only [step, noticing]
      split
      · exact .refl exchange
      · exact exchange.onward_disconnect conditions now
  | graceOver => exact exchange.onward_insist conditions now
  | interrupted interruption => exact exchange.onward_interrupt conditions limit now interruption

/-- Every step settles. -/
theorem settles_step (exchange : Exchange) (now : Moment) (happening : Happening) :
    exchange.Settles (exchange.step conditions limit now happening) :=
  (exchange.settles_noticing conditions happening).trans
    (exchange.onward_step conditions limit now happening).settles

/-- A child that is not known to have exited after a step was not known to have before it. -/
theorem running_of_step {exchange : Exchange} {now : Moment} {happening : Happening}
    (running : (exchange.step conditions limit now happening).status = none) :
    exchange.status = none := by
  cases known : exchange.status with
  | none => rfl
  | some status =>
      have settled := (settles_step conditions limit exchange now happening).status
      rw [settled (by simp [known]), known] at running
      cases running

/-- What is over stays over. -/
theorem ended_step {exchange : Exchange} {verdict : Verdict}
    (ended : exchange.stage = .ended verdict)
    (now : Moment) (happening : Happening) :
    (exchange.step conditions limit now happening).stage = .ended verdict := by
  cases happening with
  | delivered => simp [step, ended]
  | undelivered fault => simp [step, ended]
  | arrived arrival => cases arrival <;> simp only [step] <;> split <;> exact ended
  | ended pipe =>
      cases pipe <;> simp only [step] <;> split
      · simp [resume, leave, ended]
      · exact ended
      · simp [resume, leave, ended]
      · exact ended
  | unreadable fault =>
      simp only [step]
      split
      · cases fault.pipeOf <;> simp [resume, leave, ended]
      · exact ended
  | exited status =>
      simp only [step]
      split
      · exact ended
      · simp only [exit, wake, ended]
        split <;> rfl
  | disconnected => simp [step, isOver, ended]
  | graceOver => simp [step, insist, ended]
  | interrupted interruption => cases interruption <;> simp [step, interrupt, ended]

variable {conditions limit} {possible : Happening → Prop} {motive : Exchange → Prop}

section

variable (kept : ∀ exchange now happening, possible happening → motive exchange →
    motive (exchange.step conditions limit now happening))

include kept

/-- What every step keeps is kept along a history. -/
theorem after_induction {history : History} (happens : ∀ event ∈ history, possible event.2)
    {exchange : Exchange} (holds : motive exchange) :
    motive (exchange.after conditions limit history) := by
  induction history generalizing exchange with
  | nil => exact holds
  | cons event later inductionHypothesis =>
      have ⟨now, laterHappens⟩ := List.forall_mem_cons.mp happens
      exact inductionHypothesis laterHappens (kept _ _ _ now holds)

variable (passes : possible .graceOver)

include passes

/-- What every step keeps is kept while time passes. -/
theorem pass_keeps {exchange : Exchange} (holds : motive exchange) (moment : Option Moment) :
    motive (exchange.pass conditions limit moment) := by
  unfold pass
  split
  · exact kept _ _ _ passes holds
  · exact holds

/-- What every step keeps is kept along a timetable in which the child has no part. -/
theorem outlast_keeps {timetable : History} (happens : ∀ event ∈ timetable, possible event.2)
    {exchange : Exchange} (holds : motive exchange) :
    motive (exchange.outlast conditions limit timetable) := by
  induction timetable generalizing exchange with
  | nil => exact pass_keeps kept passes holds none
  | cons event later inductionHypothesis =>
      have ⟨now, laterHappens⟩ := List.forall_mem_cons.mp happens
      have passed := pass_keeps kept passes holds (some event.1)
      simp only [outlast]
      split
      · exact passed
      · exact inductionHypothesis laterHappens (kept _ _ _ now passed)

variable (child : Child) (exits : ∀ status, possible (.exited status))
  (remains : ∀ moment event, Remains child moment event → possible event.2)

include exits remains

/-- What every step keeps is kept by a child that does what it is told. -/
theorem obey_keeps {exchange obeyed : Exchange} {moment : Moment} {rest : History}
    (happens : ∀ event ∈ rest, possible event.2) (holds : motive exchange)
    (obeys : exchange.obey? conditions limit child moment rest = some obeyed) : motive obeyed := by
  obtain ⟨status, -, rfl⟩ := Option.map_eq_some_iff.mp obeys
  refine outlast_keeps kept passes (fun event among => ?_) (kept _ _ _ (exits status) holds)
  rcases mem_timetableAfter.mp among with ⟨later, -⟩ | left
  · exact happens event later
  · exact remains moment event left

/-- What every step keeps is kept when the time is over that a child was given. -/
theorem overrun_keeps {exchange : Exchange} (deadline : Moment) {rest : History}
    (happens : ∀ event ∈ rest, possible event.2) (holds : motive exchange) :
    motive (exchange.overrun conditions limit child deadline rest) := by
  have insisted := kept exchange deadline .graceOver passes holds
  simp only [overrun]
  cases obeys : obey? conditions limit child
      (exchange.step conditions limit deadline .graceOver) deadline rest with
  | none => exact insisted
  | some obeyed => exact obey_keeps kept passes child exits remains happens insisted obeys

/-- What every step keeps is kept along a timetable. -/
theorem follow_induction {timetable : History} (happens : ∀ event ∈ timetable, possible event.2)
    {exchange : Exchange} (holds : motive exchange) :
    motive (exchange.follow conditions limit child timetable) := by
  induction timetable generalizing exchange with
  | nil =>
      simp only [follow]
      split
      · exact overrun_keeps kept passes child exits remains _ nofun holds
      · exact holds
  | cons event later inductionHypothesis =>
      have ⟨now, laterHappens⟩ := List.forall_mem_cons.mp happens
      have stepped := kept exchange event.1 event.2 now holds
      simp only [follow]
      split
      · exact holds
      · split
        · exact overrun_keeps kept passes child exits remains _ happens holds
        · cases obeys : obey? conditions limit child
              (exchange.step conditions limit event.1 event.2) event.1 later with
          | none => exact inductionHypothesis laterHappens stepped
          | some obeyed =>
              exact obey_keeps kept passes child exits remains laterHappens stepped obeys

end

/-- What something brings about, and nothing takes back, is there after a history in which that
happens. -/
theorem after_of_mem
    (kept : ∀ exchange now happening, motive exchange →
      motive (exchange.step conditions limit now happening))
    {event : Moment × Happening}
    (brought : ∀ exchange, motive (Exchange.step conditions limit event.1 exchange event.2))
    {history : History} (among : event ∈ history) (exchange : Exchange) :
    motive (exchange.after conditions limit history) := by
  obtain ⟨earlier, later, rfl⟩ := List.append_of_mem among
  rw [after, List.foldl_append]
  exact @after_induction conditions limit (fun _ => True) motive
    (fun current now happening _ => kept current now happening) later (fun _ _ => trivial) _
    (brought (exchange.after conditions limit earlier))

end Steps

end Exchange

end LintClient.Run
