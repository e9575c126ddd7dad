import LintClient.Run.Course

/-!
# Timetables

What stands in a timetable: what the conditions and the time limit bring about, and what the child
does. A timetable is in order, and what is in order already stays so.
-/

namespace LintClient.Run

open Launch (Moment Child)

/-- What the conditions of a run and its time limit bring about. -/
inductive Intrudes (conditions : Conditions) (limit : Option Moment) :
    Moment × Happening → Prop where
  | fault {fault} (faulty : conditions.fault = some fault) :
      Intrudes conditions limit (0, .unreadable (.broken fault))
  | timeout {moment} (limited : limit = some moment) :
      Intrudes conditions limit (moment, .interrupted .timeout)
  | cancellation {moment} (cancelled : conditions.cancelled = some moment) :
      Intrudes conditions limit (moment, .interrupted .cancellation)

/-- What a child does. -/
inductive Does (child : Child) : Moment × Happening → Prop where
  | takes {moment} (taken : child.delivery = .taken moment) : Does child (moment, .delivered)
  | stopsReading {moment} (broken : child.delivery = .broken moment) :
      Does child (moment, .undelivered .stoppedReading)
  | writes {moment arrival} (arrives : (moment, arrival) ∈ child.arrivals) :
      Does child (moment, .arrived arrival)
  | closes {moment} (closed : child.closed = some moment) (pipe : Pipe) :
      Does child (moment, .ended pipe)
  | exits {moment} (exits : child.exit = some moment) : Does child (moment, .exited child.status)
  | disconnects {moment} (disconnected : disconnectionOf child = some moment) :
      Does child (moment, .disconnected)

variable {conditions : Conditions} {limit : Option Moment} {child : Child}
  {event : Moment × Happening}

/-- The intrusions of a run are what intrudes on it. -/
theorem mem_intrusions : event ∈ intrusions conditions limit ↔ Intrudes conditions limit event := by
  simp only [intrusions, List.mem_append, Option.mem_toList, Option.map_eq_some_iff]
  constructor
  · rintro ((⟨fault, faulty, rfl⟩ | ⟨moment, limited, rfl⟩) | ⟨moment, cancelled, rfl⟩)
    · exact .fault faulty
    · exact .timeout limited
    · exact .cancellation cancelled
  · rintro (faulty | limited | cancelled)
    · exact .inl (.inl ⟨_, faulty, rfl⟩)
    · exact .inl (.inr ⟨_, limited, rfl⟩)
    · exact .inr ⟨_, cancelled, rfl⟩

/-- The life of a child is what it does. -/
theorem mem_lifeOf : event ∈ lifeOf child ↔ Does child event := by
  simp only [lifeOf, List.mem_append, List.mem_map]
  constructor
  · rintro ((((delivery | ⟨⟨moment, arrival⟩, arrives, rfl⟩) | ends) | exit) | disconnection)
    · split at delivery
      · rename_i taken
        obtain rfl := List.mem_singleton.mp delivery
        exact .takes taken
      · rename_i broken
        obtain rfl := List.mem_singleton.mp delivery
        exact .stopsReading broken
      · cases delivery
    · exact .writes arrives
    · split at ends
      · rename_i closed
        simp only [List.mem_cons, List.not_mem_nil, or_false] at ends
        rcases ends with rfl | rfl
        · exact .closes closed .output
        · exact .closes closed .message
      · cases ends
    · split at exit
      · rename_i exits
        obtain rfl := List.mem_singleton.mp exit
        exact .exits exits
      · cases exit
    · split at disconnection
      · rename_i disconnected
        obtain rfl := List.mem_singleton.mp disconnection
        exact .disconnects disconnected
      · cases disconnection
  · rintro (taken | broken | arrives | ⟨closed, pipe⟩ | exits | disconnected)
    · exact .inl (.inl (.inl (.inl (by simp [taken]))))
    · exact .inl (.inl (.inl (.inl (by simp [broken]))))
    · exact .inl (.inl (.inl (.inr ⟨_, arrives, rfl⟩)))
    · exact .inl (.inl (.inr (by cases pipe <;> simp [closed])))
    · exact .inl (.inr (by simp [exits]))
    · exact .inr (by simp [disconnected])

/-- On a timetable stands what intrudes on the run and what the child does. -/
theorem mem_timetable : event ∈ timetable conditions limit child ↔
    Intrudes conditions limit event ∨ Does child event := by
  rw [timetable, List.mem_mergeSort, List.mem_append, mem_intrusions, mem_lifeOf]

/-- What is left of a child that is stopped: its pipes come to their ends and are disconnected. -/
inductive Remains (child : Child) (moment : Moment) : Moment × Happening → Prop where
  | closes {held} (heldUpTo : Launch.heldAfter child.holders moment = some held) (pipe : Pipe) :
      Remains child moment (held, .ended pipe)
  | disconnects {held} (heldUpTo : Launch.heldAfter child.holders moment = some held) :
      Remains child moment (held, .disconnected)

/-- What a stopped child leaves is what remains of it. -/
theorem mem_remainsOf {moment : Moment} : event ∈ remainsOf child moment ↔
    Remains child moment event := by
  unfold remainsOf
  constructor
  · intro among
    split at among
    · rename_i heldUpTo
      simp only [List.mem_cons, List.not_mem_nil, or_false] at among
      rcases among with rfl | rfl | rfl
      · exact .closes heldUpTo .output
      · exact .closes heldUpTo .message
      · exact .disconnects heldUpTo
    · cases among
  · rintro (⟨heldUpTo, pipe⟩ | heldUpTo)
    · cases pipe <;> simp [heldUpTo]
    · simp [heldUpTo]

/-- After a stop, the timetable keeps the intrusions that are still to come, and what remains of the
child. -/
theorem mem_timetableAfter {moment : Moment} {rest : List (Moment × Happening)} :
    event ∈ timetableAfter child moment rest ↔
      event ∈ rest ∧ event.2.isIntrusion = true ∨ Remains child moment event := by
  rw [timetableAfter, List.mem_mergeSort, List.mem_append, List.mem_filter, mem_remainsOf]

/-! ## The order of moments -/

/-- To be no later than something is transitive. -/
theorem notLater_trans (first second third : Moment × Happening)
    (before : notLater first second = true) (after : notLater second third = true) :
    notLater first third = true := by
  simp only [notLater, decide_eq_true_eq] at before after ⊢
  exact Nat.le_trans before after

/-- Of two events, one is no later than the other. -/
theorem notLater_total (first second : Moment × Happening) :
    (notLater first second || notLater second first) = true := by
  simp only [notLater, Bool.or_eq_true, decide_eq_true_eq]
  exact Nat.le_total first.1 second.1

/-- The first of some events in order is no later than any of them. -/
theorem head_notLater {history : List (Moment × Happening)} {other : Moment × Happening}
    (inOrder : (event :: history).Pairwise fun earlier later => earlier.1 ≤ later.1)
    (among : other ∈ event :: history) : event.1 ≤ other.1 := by
  rcases List.mem_cons.mp among with rfl | among
  · exact Nat.le_refl _
  · exact List.rel_of_pairwise_cons inOrder among

variable (child) in
/-- The life of a child, in order. -/
def courseOf : List (Moment × Happening) := (lifeOf child).mergeSort notLater

/-- The course of a child is what it does. -/
theorem mem_courseOf : event ∈ courseOf child ↔ Does child event := by
  rw [courseOf, List.mem_mergeSort, mem_lifeOf]

variable (child) in
/-- The course of a child is in the order of its moments. -/
theorem courseOf_inOrder : (courseOf child).Pairwise fun earlier later => earlier.1 ≤ later.1 :=
  (List.pairwise_mergeSort notLater_trans notLater_total (lifeOf child)).imp of_decide_eq_true

/-- What a child does in order stays in order. -/
theorem sublist_courseOf {part : List (Moment × Happening)}
    (inOrder : part.Pairwise fun earlier later => earlier.1 ≤ later.1)
    (does : part.Sublist (lifeOf child)) : part.Sublist (courseOf child) :=
  List.sublist_mergeSort notLater_trans notLater_total (inOrder.imp decide_eq_true) does

/-- A run that nothing interrupts before its time limit has the course of its child, and then what
comes at the limit. -/
theorem timetable_of_inTime (faultless : conditions.fault = none)
    (uncancelled : conditions.cancelled = none)
    (inTime : ∀ event, Does child event → ∀ moment, limit = some moment → event.1 < moment) :
    timetable conditions limit child = courseOf child ++ intrusions conditions limit := by
  cases limit with
  | none => simp [timetable, intrusions, faultless, uncancelled, courseOf]
  | some moment =>
      have intrusion : intrusions conditions (some moment) = [(moment, .interrupted .timeout)] := by
        simp [intrusions, faultless, uncancelled]
      obtain ⟨earlier, later, sorted, course, -⟩ :=
        List.mergeSort_cons notLater_trans notLater_total
        (moment, Happening.interrupted .timeout) (lifeOf child)
      have inOrder := List.pairwise_mergeSort notLater_trans notLater_total
        ((moment, Happening.interrupted .timeout) :: lifeOf child)
      rw [sorted, List.pairwise_append] at inOrder
      -- Whatever came behind the limit would be later than the child's whole course.
      have nothing : later = [] := by
        refine List.eq_nil_iff_forall_not_mem.mpr fun event among => ?_
        have does : Does child event := by
          rw [← mem_courseOf, courseOf, course]
          exact List.mem_append_right _ among
        have behind := List.rel_of_pairwise_cons inOrder.2.1 among
        simp only [notLater, decide_eq_true_eq] at behind
        exact Nat.lt_irrefl _ (Nat.lt_of_le_of_lt behind (inTime event does moment rfl))
      rw [timetable, intrusion, List.singleton_append, sorted, courseOf, course, nothing,
        List.append_nil]

end LintClient.Run
