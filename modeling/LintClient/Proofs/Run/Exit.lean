import LintClient.Proofs.Run.Operations
import LintClient.Proofs.Run.Timetable

/-!
# The exit of the child

Which verdicts vouch for the exit of the child. A run that gives a report or fails has awaited it,
whatever happens and in whatever order. A run that is cancelled has not, and neither has one in
which something happens that nobody handles: a text that has no form in which it could be delivered
is the case in point.
-/

namespace LintClient.Run

open Launch (Moment Child Launcher)
open Text (Source)

/-- Something that a run has an answer to. -/
def Happening.isForeseen : Happening → Bool
  | .undelivered (.unwritable _) | .undelivered .unforeseen | .unreadable (.unforeseen _) => false
  | _ => true

/-- What warrants a verdict, given what may happen and how the child has exited. -/
inductive Warrant (possible : Happening → Prop) (status : Option Int) : Verdict → Prop where
  | finished (exited : status.isSome) : Warrant possible status .finished
  | stopped (cause : StopCause) (exited : status.isSome) : Warrant possible status (.stopped cause)
  | unwritable (run : Source.StrayRun) (happens : possible (.undelivered (.unwritable run))) :
      Warrant possible status (.unwritable run)
  | undelivered (happens : possible (.undelivered .unforeseen)) :
      Warrant possible status .unforeseen
  | unread (pipe : Pipe) (happens : possible (.unreadable (.unforeseen pipe))) :
      Warrant possible status .unforeseen
  | cancelled (happens : possible (.interrupted .cancellation)) : Warrant possible status .cancelled

/-- An exit takes no warrant back. -/
theorem Warrant.exited {possible : Happening → Prop} {status : Option Int} {verdict : Verdict}
    (warrant : Warrant possible status verdict) (known : Int) :
    Warrant possible (some known) verdict := by
  cases warrant with
  | finished _ => exact .finished rfl
  | stopped cause _ => exact .stopped cause rfl
  | unwritable run happens => exact .unwritable run happens
  | undelivered happens => exact .undelivered happens
  | unread pipe happens => exact .unread pipe happens
  | cancelled happens => exact .cancelled happens

namespace Exchange

/-- Verdicts have their warrants, and faults of pipes are faults that may happen. -/
structure Warranted (possible : Happening → Prop) (exchange : Exchange) : Prop where
  faulted : ∀ fault, exchange.readFault = some fault → possible (.unreadable fault)
  ended : ∀ verdict, exchange.stage = .ended verdict → Warrant possible exchange.status verdict

namespace Warranted

variable {possible : Happening → Prop} {exchange : Exchange}
  (warranted : exchange.Warranted possible)

/-- There is no verdict at the start. -/
theorem start : Exchange.start.Warranted possible := ⟨nofun, nofun⟩

include warranted

/-- What goes onward keeps warrants, when the verdict that it comes to has one. -/
theorem onward {next : Exchange} (onward : exchange.Onward next)
    (ended : ∀ verdict, next.stage = .ended verdict → Warrant possible exchange.status verdict) :
    next.Warranted possible where
  faulted := by rw [onward.readFault]; exact warranted.faulted
  ended := by rw [onward.status]; exact ended

/-- To conclude with a verdict that has its warrant keeps warrants. -/
theorem conclude {verdict : Verdict} (warrant : Warrant possible exchange.status verdict) :
    (exchange.conclude verdict).Warranted possible := by
  refine warranted.onward (exchange.onward_conclude verdict) ?_
  rintro _ ⟨⟩
  exact warrant

/-- Records need no warrant. -/
theorem note (records : List LogRecord) : (exchange.note records).Warranted possible :=
  warranted.onward (exchange.onward_note records) warranted.ended

/-- To abandon the reading comes to no verdict. -/
theorem abandon : exchange.abandon.Warranted possible := by
  refine warranted.onward exchange.onward_abandon fun verdict ended => warranted.ended verdict ?_
  rw [← ended]
  unfold Exchange.abandon
  split <;> rfl

/-- What is heard comes to no verdict. -/
theorem hear (listening : Listening) :
    { exchange with listening := listening }.Warranted possible :=
  ⟨warranted.faulted, warranted.ended⟩

/-- A stage that goes on needs no warrant. -/
theorem goesOn {stage : Stage} (begun : stage ≠ .delivering)
    (running : ∀ verdict, stage ≠ .ended verdict) :
    { exchange with stage := stage }.Warranted possible :=
  warranted.onward (exchange.onward_stage begun) fun verdict ended => absurd ended (running verdict)

/-- To stop a child comes to a verdict only when its exit is known. -/
theorem stop (cause : StopCause) (stopping : Stopping) :
    (exchange.stop cause stopping).Warranted possible := by
  unfold Exchange.stop
  split
  · rename_i exited
    exact warranted.conclude (.stopped cause exited)
  · exact warranted.goesOn nofun nofun

section

variable (conditions : Conditions) (limit : Json) (now : Moment)

/-- To finish with a known exit is warranted. -/
theorem finish {status : Int} (exited : exchange.status.isSome) :
    (exchange.finish conditions status).Warranted possible :=
  (warranted.note _).conclude (.finished exited)

/-- To proceed comes to a verdict only by a known exit or a fault that has happened. -/
theorem proceed : (exchange.proceed conditions now).Warranted possible := by
  unfold Exchange.proceed
  split
  · exact (warranted.note _).stop _ _
  · rename_i pipe faulted
    exact warranted.conclude (.unread pipe (warranted.faulted _ faulted))
  · split
    · split
      · rename_i status exited
        exact warranted.finish conditions (by rw [exited]; rfl)
      · exact warranted.goesOn nofun nofun
    · exact warranted.goesOn nofun nofun

/-- To proceed early comes to no other verdicts than to proceed. -/
theorem proceedEarly : (exchange.proceedEarly conditions now).Warranted possible :=
  (warranted.note _).proceed conditions now

/-- To resume comes to no other verdicts than to proceed. -/
theorem resume : (exchange.resume conditions now).Warranted possible := by
  unfold Exchange.resume
  split
  · exact warranted.proceed conditions now
  · exact warranted

/-- A time limit stops the child, and comes to no other verdict. -/
theorem timeOut : (exchange.timeOut conditions limit now).Warranted possible :=
  (warranted.abandon.note _).stop _ _

/-- A fault of the delivery that may happen is the warrant of the verdict that it comes to. -/
theorem failDelivery {fault : DeliveryFault} (happens : possible (.undelivered fault)) :
    (exchange.failDelivery conditions limit now fault).Warranted possible := by
  cases fault with
  | stoppedReading =>
      simp only [Exchange.failDelivery]
      split
      · exact warranted.proceedEarly conditions now
      · exact warranted.goesOn (by simp) (by simp)
  | unwritable run => exact warranted.conclude (.unwritable run happens)
  | overdue => exact warranted.timeOut conditions limit now
  | unforeseen => exact warranted.conclude (.undelivered happens)

/-- To leave a pipe comes to no verdict. -/
theorem leave (pipe : Pipe) : (exchange.leave pipe).Warranted possible :=
  warranted.onward (exchange.onward_leave pipe) (by cases pipe <;> exact warranted.ended)

/-- To insist on an end comes to no verdict. -/
theorem insist : (exchange.insist conditions now).Warranted possible := by
  unfold Exchange.insist
  split
  · exact (warranted.note _).stop _ _
  · exact warranted
  · exact (warranted.note _).stop _ _
  · exact warranted

/-- An interruption that may happen is the warrant of the verdict that it comes to. -/
theorem interrupt {interruption : Interruption} (happens : possible (.interrupted interruption)) :
    (exchange.interrupt conditions limit now interruption).Warranted possible := by
  cases interruption <;> simp only [Exchange.interrupt] <;> split
  · exact warranted
  · exact warranted
  · exact warranted.timeOut conditions limit now
  · exact warranted
  · exact warranted.conclude (.cancelled happens)
  · exact (warranted.note _).conclude (.cancelled happens)

/-- To wake comes to a verdict only with a known exit. -/
theorem wake : (exchange.wake conditions now).Warranted possible := by
  unfold Exchange.wake
  split
  · exact warranted
  · rename_i status exited
    have known : exchange.status.isSome := by rw [exited]; rfl
    split
    · exact warranted
    · split
      · exact warranted.proceedEarly conditions now
      · exact warranted.finish conditions known
      · exact warranted.conclude (.stopped _ known)
      · exact warranted

/-- An exit keeps warrants, and gives one to what it wakes. -/
theorem exit (status : Int) : (exchange.exit conditions now status).Warranted possible := by
  have known : { exchange with status := some status }.Warranted possible :=
    ⟨warranted.faulted, fun verdict ended => (warranted.ended verdict ended).exited status⟩
  exact known.wake conditions now

/-- The end of the link to the pipes keeps warrants. -/
theorem disconnect : (exchange.disconnect conditions now).Warranted possible := by
  have unlinked : { exchange with isLinked := false }.Warranted possible :=
    ⟨warranted.faulted, warranted.ended⟩
  exact unlinked.wake conditions now

/-- Every step keeps verdicts warranted. -/
theorem step {happening : Happening} (happens : possible happening) :
    (exchange.step conditions limit now happening).Warranted possible := by
  cases happening with
  | delivered =>
      simp only [Exchange.step]
      split
      · exact warranted.proceed conditions now
      · exact warranted
  | undelivered fault =>
      simp only [Exchange.step]
      split
      · exact warranted.failDelivery conditions limit now happens
      · exact warranted
  | arrived arrival =>
      cases arrival <;> simp only [Exchange.step] <;> split
      · exact warranted.hear _
      · exact warranted
      · exact warranted.hear _
      · exact warranted
  | ended pipe =>
      cases pipe <;> simp only [Exchange.step] <;> split
      · exact ((warranted.hear _).leave .output).resume conditions now
      · exact warranted
      · exact (warranted.leave .message).resume conditions now
      · exact warranted
  | unreadable fault =>
      simp only [Exchange.step]
      split
      · have noted : { exchange with readFault := exchange.readFault <|> some fault }.Warranted
            possible := by
          refine ⟨fun other faulted => ?_, warranted.ended⟩
          cases known : exchange.readFault with
          | none =>
              obtain rfl : fault = other := by simpa [known] using faulted
              exact happens
          | some first =>
              obtain rfl : first = other := by simpa [known] using faulted
              exact warranted.faulted first known
        exact (noted.leave _).resume conditions now
      · exact warranted
  | exited status =>
      simp only [Exchange.step]
      split
      · exact warranted
      · exact warranted.exit conditions now status
  | disconnected =>
      simp only [Exchange.step]
      split
      · exact warranted
      · exact warranted.disconnect conditions now
  | graceOver => exact warranted.insist conditions now
  | interrupted interruption => exact warranted.interrupt conditions limit now happens

end

end Warranted

/-- Along a history, verdicts have their warrants in that history. -/
theorem warranted_after (conditions : Conditions) (limit : Json) (history : History) :
    (start.after conditions limit history).Warranted fun happening =>
      ∃ moment, (moment, happening) ∈ history :=
  after_induction (fun _ now _ happens warranted => warranted.step conditions limit now happens)
    (fun event among => ⟨event.1, among⟩) .start

/-- What may happen to a run with a child: what its timetable has, and what comes of stopping the
child. -/
inductive Scheduled (conditions : Conditions) (limit : Option Moment) (child : Child) :
    Happening → Prop where
  | intrudes {moment happening} (intrudes : Intrudes conditions limit (moment, happening)) :
      Scheduled conditions limit child happening
  | does {moment happening} (does : Does child (moment, happening)) :
      Scheduled conditions limit child happening
  | remains {stopped moment happening} (remains : Remains child stopped (moment, happening)) :
      Scheduled conditions limit child happening
  | graceOver : Scheduled conditions limit child .graceOver
  | exited (status : Int) : Scheduled conditions limit child (.exited status)

/-- A run with a child has an answer to all that may happen to it. -/
theorem Scheduled.isForeseen {conditions : Conditions} {limit : Option Moment} {child : Child}
    {happening : Happening} (scheduled : Scheduled conditions limit child happening) :
    happening.isForeseen = true := by
  cases scheduled with
  | intrudes intrudes => cases intrudes <;> rfl
  | does does => cases does <;> rfl
  | remains remains => cases remains <;> rfl
  | graceOver => rfl
  | exited status => rfl

/-- Along its timetable, the verdicts of a run have their warrants in what may happen to it. -/
theorem warranted_exchangeWith (conditions : Conditions) (limit : Json) (moment : Option Moment)
    (child : Child) : (exchangeWith conditions limit moment child).Warranted
      (Scheduled conditions moment child) := by
  refine follow_induction
    (fun _ now _ happens warranted => warranted.step conditions limit now happens)
    .graceOver child .exited (fun _ _ => .remains) (fun event among => ?_) .start
  rcases mem_timetable.mp among with intrudes | does
  · exact .intrudes intrudes
  · exact .does does

end Exchange

/-! ## Runs -/

/-- Why a run may leave its child behind. -/
inductive Leaves (conditions : Conditions) (limit : Json) (source : Source) : Ending → Prop where
  | undeliverable {run : Source.StrayRun} (unwritable : source.encode = .error run) :
      Leaves conditions limit source (.undeliverable run)
  | obstructed {cause : Json.Misuse} (misused : limitOf limit = .error cause) :
      Leaves conditions limit source (.obstructed (.misuse cause))
  | cancelled (requested : conditions.cancelled.isSome) : Leaves conditions limit source .cancelled
  | endless : Leaves conditions limit source .endless

section Runs

variable (conditions : Conditions) (command : List String) (limit : Json)

/-- Along a timetable an exchange finishes or is stopped, with a child that has exited, or it is
cancelled as was asked for, or it never ends. -/
theorem verdict_exchangeWith (moment : Option Moment) (child : Child) :
    ((exchangeWith conditions limit moment child).status.isSome ∧
        ((exchangeWith conditions limit moment child).stage = .ended .finished ∨
          ∃ cause, (exchangeWith conditions limit moment child).stage = .ended (.stopped cause))) ∨
      (conditions.cancelled.isSome ∧
        (exchangeWith conditions limit moment child).stage = .ended .cancelled) ∨
      (exchangeWith conditions limit moment child).ending command limit = .endless := by
  have warranted := Exchange.warranted_exchangeWith conditions limit moment child
  generalize exchangeWith conditions limit moment child = exchange at *
  cases staged : exchange.stage with
  | ended verdict =>
      cases warranted.ended verdict staged with
      | finished exited => exact .inl ⟨exited, .inl rfl⟩
      | stopped cause exited => exact .inl ⟨exited, .inr ⟨cause, rfl⟩⟩
      | unwritable run happens => cases happens.isForeseen
      | undelivered happens => cases happens.isForeseen
      | unread pipe happens => cases happens.isForeseen
      | cancelled happens =>
          refine .inr (.inl ⟨?_, rfl⟩)
          cases happens with
          | intrudes intrudes => cases intrudes with | cancellation known => simp [known]
          | does does => cases does
          | remains remains => cases remains
  | delivering | leaving | reading | waiting | stopping =>
      exact .inr (.inr (by rw [Exchange.ending, staged]))

/-- An exchange along a timetable leaves its child only if it is cancelled or never ends. -/
theorem ending_exchangeWith (moment : Option Moment) (child : Child)
    (leaves : (exchangeWith conditions limit moment child).status = none) :
    conditions.cancelled.isSome ∧
        (exchangeWith conditions limit moment child).ending command limit = .cancelled ∨
      (exchangeWith conditions limit moment child).ending command limit = .endless := by
  rcases verdict_exchangeWith conditions command limit moment child with
    ⟨exited, -⟩ | ⟨requested, staged⟩ | endless
  · rw [leaves] at exited
    cases exited
  · exact .inl ⟨requested, by rw [Exchange.ending, staged]⟩
  · exact .inr endless

/-- Why the run of a child that has been started may leave it behind. -/
theorem leaves_runChild (source : Source) (behave : List UInt8 → Child)
    (leaves : (runChild conditions command limit source behave).leavesChild = true) :
    Leaves conditions limit source (runChild conditions command limit source behave).ending := by
  simp only [runChild, limitOf_counting] at leaves ⊢
  have delivered : ∀ (moment : Option Moment) (child : Child) (counting : Json),
      (exchangeWith conditions counting moment child).status.isNone = true →
      Leaves conditions limit source
        ((exchangeWith conditions counting moment child).ending command counting) := by
    intro moment child counting unknown
    rcases ending_exchangeWith conditions command counting moment child
      (Option.isNone_iff_eq_none.mp unknown) with ⟨requested, ending⟩ | ending
    · rw [ending]
      exact .cancelled requested
    · rw [ending]
      exact .endless
  cases limited : limitOf limit with
  | error cause => exact .obstructed limited
  | ok allowed =>
      rw [limited] at leaves
      cases allowed with
      | expired => cases leaves
      | unlimited =>
          cases written : source.encode with
          | error run => exact .undeliverable written
          | ok text =>
              rw [written] at leaves
              exact delivered _ _ _ leaves
      | after moment =>
          cases written : source.encode with
          | error run => exact .undeliverable written
          | ok text =>
              rw [written] at leaves
              exact delivered _ _ _ leaves

/-- A text that cannot be delivered leaves its child, whatever the child does. -/
theorem runChild_of_unwritable {source : Source} {run : Source.StrayRun}
    (unwritable : source.encode = .error run) {allowed : Limit}
    (limited : limitOf limit = .ok allowed) (begins : allowed ≠ .expired)
    (behave : List UInt8 → Child) :
    runChild conditions command limit source behave = ⟨.undeliverable run, [], true, none⟩ := by
  simp only [runChild, limitOf_counting, limited, unwritable]
  cases allowed with
  | expired => exact absurd rfl begins
  | unlimited => rfl
  | after moment => rfl

/-- Why a command may leave its child behind. -/
theorem leaves_runCommand (launch : Launcher) (host : Host) (source : Source) (name : Source)
    (arguments : List Source)
    (leaves : (runCommand launch host conditions limit source name arguments).leavesChild = true) :
    Leaves conditions limit source
      (runCommand launch host conditions limit source name arguments).ending := by
  revert leaves
  simp only [runCommand]
  cases launch host name arguments with
  | error fault => nofun
  | ok behave => exact leaves_runChild conditions _ limit source behave

/-- Why a run may leave a child behind. -/
theorem leaves_run (launch : Launcher) (host : Host) (config : Config) (source : Source)
    (leaves : (run launch host config conditions source).leavesChild = true) :
    Leaves conditions config.timeout source (run launch host config conditions source).ending := by
  revert leaves
  unfold run
  generalize
    (if config.command.isPresent then [] else Launch.javaNotes host config.javaPath) = notes
  split
  · split <;> nofun
  · split
    · exact leaves_runCommand conditions config.timeout launch host source _ _
    · nofun
    · nofun

end Runs

/-- The exit of a child is awaited unless something happens that nobody handles. Whatever happens to
an exchange and in whatever order, it only ends with a report or a failure when the exit is known;
the other verdicts come of a cancellation, of a text that cannot be delivered or of something
unforeseen in its history. However commands are started, a run leaves its child behind only if it is
cancelled or never ends, if the text has no form in which it could be delivered, or if the time
limit is of no use. In the case of such a text it does so whatever the child does. -/
theorem exit_is_awaited (conditions : Conditions) (limit : Json) :
    (∀ history : History, (Exchange.start.after conditions limit history).Warranted fun happening =>
      ∃ moment, (moment, happening) ∈ history) ∧
    (∀ (command : List String) (source : Source) (behave : List UInt8 → Child),
      (runChild conditions command limit source behave).leavesChild = true →
        Leaves conditions limit source
          (runChild conditions command limit source behave).ending) ∧
    (∀ (launch : Launcher) (host : Host) (config : Config) (source : Source),
      (run launch host config conditions source).leavesChild = true →
        Leaves conditions config.timeout source (run launch host config conditions source).ending) ∧
    ∀ (command : List String) (source : Source) (behave : List UInt8 → Child)
      (run : Source.StrayRun) (allowed : Limit), source.encode = .error run →
      limitOf limit = .ok allowed → allowed ≠ .expired →
        runChild conditions command limit source behave = ⟨.undeliverable run, [], true, none⟩ :=
  ⟨Exchange.warranted_after conditions limit,
    fun command source behave => leaves_runChild conditions command limit source behave,
    fun launch host config source => leaves_run conditions launch host config source,
    fun command _ behave _ _ unwritable limited begins =>
      runChild_of_unwritable conditions command limit unwritable limited begins behave⟩

/-- A child that sleeps for five seconds and takes its text without looking at it. -/
def sleepingChild : Child where
  arrivals := []
  delivery := .taken 0
  closed := some 5000000
  exit := some 5000000
  status := 0
  obeysTermination := true
  holders := []
  files := []

/-- A byte that is no part of a character leaves a sleeping child behind. -/
theorem stray_byte_leaves_child :
    runChild (.usual "7") ["sleep", "5"] (.int 0) [.stray (.ofByte 0xFF)] (fun _ => sleepingChild) =
      ⟨.undeliverable ⟨0, .ofByte 0xFF, 1⟩, [], true, none⟩ :=
  (exit_is_awaited (.usual "7") (.int 0)).2.2.2 ["sleep", "5"] [.stray (.ofByte 0xFF)]
    (fun _ => sleepingChild) ⟨0, .ofByte 0xFF, 1⟩ .unlimited rfl rfl nofun

/-- So it is not so that every run awaits the exit of its child unless it is cancelled. -/
theorem not_every_exit_is_awaited :
    ¬ ∀ (source : Source) (behave : List UInt8 → Child),
      (runChild (.usual "7") ["sleep", "5"] (.int 0) source behave).ending ≠ .cancelled →
        (runChild (.usual "7") ["sleep", "5"] (.int 0) source behave).leavesChild = false := by
  intro awaited
  have left : (runChild (.usual "7") ["sleep", "5"] (.int 0) [.stray (.ofByte 0xFF)]
      fun _ => sleepingChild).leavesChild = false := awaited _ _ nofun
  cases left

end LintClient.Run
