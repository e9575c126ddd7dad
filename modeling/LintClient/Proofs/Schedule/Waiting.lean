import LintClient.Proofs.Schedule.Watching

/-!
# Waiting until no run is in flight

While it waits, a waiter watches the run in flight or there is one callback for it in the queue,
never both and never two (`Attended`). So nobody waits when no run is in flight and the queue is
empty, and nobody is let go while a run is in flight. What a run comes to is not told to those who
watch it, with one exception: a run that ends in a cancellation cancels them, too (`told_stroke`).
-/

namespace LintClient.Schedule.Timeline

variable {τ ρ : Type}

/-! ## Those who wait -/

/-- Everyone who waits is attended to: the run in flight will tell it of its end, or there is one
callback for it in the queue. Nobody else is. -/
structure Attended (timeline : Timeline τ ρ) : Prop extends Sound timeline where
  watchedRun : timeline.watchers ≠ [] → timeline.scheduler.active.isSome = true
  awaited : ∀ waiter,
    (timeline.errands.map Prod.fst).count waiter + timeline.watchers.count waiter =
      if timeline.waiters[waiter]? = some .waiting then 1 else 0

/-- A waiter for whom there is a callback waits. -/
theorem Attended.waiting {timeline : Timeline τ ρ} (attended : timeline.Attended) {waiter : Nat}
    {cancelled : Bool} (due : (waiter, cancelled) ∈ timeline.errands) :
    timeline.waiters[waiter]? = some .waiting := by
  have counted := attended.awaited waiter
  have positive : 0 < (timeline.errands.map Prod.fst).count waiter :=
    List.count_pos_iff.mpr (List.mem_map.mpr ⟨_, due, rfl⟩)
  by_contra settled
  rw [if_neg settled] at counted
  omega

/-- Who waits is watching the run in flight or has a callback in the queue. -/
theorem Attended.cases_of_waiting {timeline : Timeline τ ρ} (attended : timeline.Attended)
    {waiter : Nat} (waits : timeline.waiters[waiter]? = some .waiting) :
    (waiter ∈ timeline.watchers ∧ timeline.scheduler.active.isSome = true) ∨
      ∃ cancelled, (waiter, cancelled) ∈ timeline.errands := by
  have counted := attended.awaited waiter
  rw [if_pos waits] at counted
  by_cases watches : waiter ∈ timeline.watchers
  · exact .inl ⟨watches, attended.watchedRun (List.ne_nil_of_mem watches)⟩
  · rw [List.count_eq_zero_of_not_mem watches] at counted
    have due : 0 < (timeline.errands.map Prod.fst).count waiter := by omega
    obtain ⟨⟨own, cancelled⟩, there, rfl⟩ := List.mem_map.mp (List.count_pos_iff.mp due)
    exact .inr ⟨cancelled, there⟩

/-- Who joins waits behind the others. -/
theorem getElem?_joined (waiters : List Waiter) (waiter : Nat) :
    (waiters ++ [.waiting])[waiter]? =
      if waiter = waiters.length then some .waiting else waiters[waiter]? := by
  split
  next same => simp [same]
  next different =>
    rcases Nat.lt_or_gt_of_ne different with known | unknown
    · rw [List.getElem?_append_left known]
    · rw [List.getElem?_eq_none (by simp; omega), List.getElem?_eq_none (by omega)]

/-- At the start nobody waits. -/
theorem attended_start (origin : τ) : (start origin : Timeline τ ρ).Attended := by
  refine ⟨⟨nofun, nofun⟩, ?_, ?_⟩
  · exact fun someone => absurd rfl someone
  · intro waiter
    rfl

section Attention

variable [Add τ] [OfNat τ 0] [LE τ] [DecidableLE τ]
variable {setting : Setting τ ρ} {timeline : Timeline τ ρ}

/-- Every stroke keeps everyone who waits attended to. -/
theorem Attended.stroke (attended : timeline.Attended) (next : Stroke τ) :
    (timeline.stroke setting next).Attended := by
  have watchedRun := attended.watchedRun
  have awaited := attended.awaited
  suffices kept : ((timeline.stroke setting next).watchers ≠ [] →
      (timeline.stroke setting next).scheduler.active.isSome = true) ∧ ∀ waiter,
        ((timeline.stroke setting next).errands.map Prod.fst).count waiter
            + (timeline.stroke setting next).watchers.count waiter =
          if (timeline.stroke setting next).waiters[waiter]? = some .waiting then 1 else 0 from
    ⟨attended.toSound.stroke next, kept.1, kept.2⟩
  cases change_stroke setting attended.toSound next with
  | nothing calm =>
      rw [calm.watchers, calm.errands, calm.waiters]
      exact ⟨calm.occupied ∘ watchedRun, awaited⟩
  | runEnds ends waiters watchers errands =>
      rw [watchers, errands, waiters]
      refine ⟨fun someone => absurd rfl someone, ?_⟩
      intro waiter
      rw [List.map_append, List.map_map, List.count_append, List.count_nil]
      exact (congrArg _ (congrArg _ (List.map_id _))).trans (awaited waiter)
  | joins waiters watchers errands same =>
      rw [watchers, errands, waiters, same]
      refine ⟨watchedRun, ?_⟩
      intro waiter
      have before := awaited waiter
      rw [List.map_append, List.count_append, List.map_singleton, getElem?_joined]
      by_cases new : waiter = timeline.waiters.length
      · rw [if_neg (by simp [new])] at before
        rw [if_pos (by simp [new]), new, List.count_singleton_self]
        rw [new] at before
        omega
      · rw [if_neg new, List.count_singleton, if_neg (by simpa using Ne.symm new)]
        exact before
  | passedOn due waiters watchers errands same =>
      rw [watchers, errands, waiters, same]
      refine ⟨watchedRun, ?_⟩
      intro waiter
      rw [← awaited waiter, due]
      simp only [List.map_append, List.map_cons, List.map_nil, List.count_append, List.count_cons,
        List.count_nil]
      omega
  | @watches watching before behind due occupied waiters watchers errands same =>
      rw [watchers, errands, waiters, same]
      refine ⟨fun _ => occupied, ?_⟩
      intro waiter
      rw [← awaited waiter, due]
      simp only [List.map_append, List.map_cons, List.count_append, List.count_cons, List.count_nil]
      omega
  | @settles settled cancelled before behind due free waiters watchers errands same =>
      rw [watchers, errands, waiters, same]
      refine ⟨watchedRun, ?_⟩
      intro waiter
      have waits := attended.waiting (due ▸ List.mem_append_right before List.mem_cons_self)
      have before := awaited waiter
      rw [due] at before
      simp only [List.map_append, List.map_cons, List.count_append, List.count_cons] at before ⊢
      rw [List.getElem?_set]
      by_cases same : settled = waiter
      · subst same
        have outcome : (if settled < timeline.waiters.length then
            some (if cancelled = true then Waiter.cancelled else .done) else none) ≠
              some .waiting := by
          cases cancelled <;> split <;> simp
        rw [if_pos waits, if_pos (beq_self_eq_true _)] at before
        rw [if_pos rfl, if_neg outcome]
        omega
      · rw [if_neg (by simpa using same)] at before
        rw [if_neg same]
        omega

/-- After all strokes everyone who waits is attended to. -/
theorem attended_after (setting : Setting τ ρ) (origin : τ) (strokes : List (Stroke τ)) :
    (after setting origin strokes).Attended :=
  kept_after Attended (fun _ attended next => attended.stroke next) (attended_start origin) strokes

/-! ## Being let go -/

/-- Nobody is let go while a run is in flight. -/
theorem Attended.free_of_done (attended : timeline.Attended) {next : Stroke τ} {waiter : Nat}
    (waits : timeline.waiters[waiter]? = some .waiting)
    (letGo : (timeline.stroke setting next).waiters[waiter]? = some .done) :
    timeline.scheduler.active = none ∧ (timeline.stroke setting next).scheduler.active = none := by
  cases change_stroke setting attended.toSound next with
  | nothing calm =>
      rw [calm.waiters, waits] at letGo
      cases letGo
  | runEnds ends waiters watchers errands =>
      rw [waiters, waits] at letGo
      cases letGo
  | joins waiters watchers errands same =>
      rw [waiters, getElem?_joined] at letGo
      split at letGo
      · cases letGo
      · cases waits.symm.trans letGo
  | passedOn due waiters watchers errands same =>
      rw [waiters, waits] at letGo
      cases letGo
  | watches due occupied waiters watchers errands same =>
      rw [waiters, waits] at letGo
      cases letGo
  | @settles settled cancelled before behind due free waiters watchers errands same =>
      rw [waiters, List.getElem?_set] at letGo
      rw [same]
      split at letGo
      · split at letGo
        · cases cancelled with
          | false => exact ⟨free rfl, free rfl⟩
          | true => cases letGo
        · cases letGo
      · cases waits.symm.trans letGo

/-- What has become of a waiter stays. -/
theorem Attended.settled_stroke (attended : timeline.Attended) (next : Stroke τ) {waiter : Nat}
    {outcome : Waiter} (found : timeline.waiters[waiter]? = some outcome)
    (settled : outcome ≠ .waiting) :
    (timeline.stroke setting next).waiters[waiter]? = some outcome := by
  cases change_stroke setting attended.toSound next with
  | nothing calm => rwa [calm.waiters]
  | runEnds ends waiters watchers errands => rwa [waiters]
  | joins waiters watchers errands same =>
      rw [waiters, getElem?_joined, if_neg]
      · exact found
      · rintro rfl
        rw [List.getElem?_length] at found
        cases found
  | passedOn due waiters watchers errands same => rwa [waiters]
  | watches due occupied waiters watchers errands same => rwa [waiters]
  | @settles other cancelled before behind due free waiters watchers errands same =>
      have waits := attended.waiting (due ▸ List.mem_append_right before List.mem_cons_self)
      have different : other ≠ waiter := by
        rintro rfl
        exact settled (Option.some.inj (found.symm.trans waits))
      rwa [waiters, List.getElem?_set_ne different]

/-! ## Being told of a cancellation -/

/-- A waiter has been told that a run was cancelled, or there is a callback for it that will. -/
def Told (timeline : Timeline τ ρ) (waiter : Nat) : Prop :=
  timeline.waiters[waiter]? = some .cancelled ∨ (waiter, true) ∈ timeline.errands

/-- Nobody is told but those who watch a run that ends in a cancellation. -/
theorem Attended.told_of_told_stroke (attended : timeline.Attended) {next : Stroke τ} {waiter : Nat}
    (told : (timeline.stroke setting next).Told waiter) :
    timeline.Told waiter ∨ waiter ∈ timeline.watchers ∧ timeline.Ends setting next .cancelled := by
  unfold Told at told
  cases change_stroke setting attended.toSound next with
  | nothing calm =>
      rw [calm.waiters, calm.errands] at told
      exact .inl told
  | @runEnds ending ends waiters watchers errands =>
      rw [waiters, errands, List.mem_append, List.mem_map] at told
      rcases told with cancelled | due | ⟨watcher, watches, same⟩
      · exact .inl (.inl cancelled)
      · exact .inl (.inr due)
      · obtain ⟨rfl, isCancelled⟩ := Prod.mk.inj same
        cases ending with
        | answered => cases isCancelled
        | cancelled => exact .inr ⟨watches, ends⟩
  | joins waiters watchers errands same =>
      rw [waiters, errands, getElem?_joined, List.mem_append, List.mem_singleton] at told
      rcases told with cancelled | due | new
      · split at cancelled
        · cases cancelled
        · exact .inl (.inl cancelled)
      · exact .inl (.inr due)
      · cases new
  | passedOn due waiters watchers errands same =>
      rw [waiters, errands] at told
      refine .inl (told.imp_right fun passed => ?_)
      rw [due]
      simpa [or_assoc, or_comm, or_left_comm] using passed
  | watches due occupied waiters watchers errands same =>
      rw [waiters, errands] at told
      refine .inl (told.imp_right fun left => ?_)
      rw [due]
      exact List.mem_append.mpr ((List.mem_append.mp left).imp_right (List.mem_cons_of_mem _))
  | @settles other cancelled before behind due free waiters watchers errands same =>
      rw [waiters, errands, List.getElem?_set] at told
      rcases told with settled | left
      · split at settled
        next isOther =>
          subst isOther
          cases cancelled with
          | false => split at settled <;> cases settled
          | true => exact .inl (.inr (due ▸ List.mem_append_right before List.mem_cons_self))
        next => exact .inl (.inl settled)
      · refine .inl (.inr ?_)
        rw [due]
        exact List.mem_append.mpr ((List.mem_append.mp left).imp_right (List.mem_cons_of_mem _))

/-- What is on its way to a waiter gets there. -/
theorem Attended.told_stroke_of_due (attended : timeline.Attended) (next : Stroke τ) {waiter : Nat}
    (coming : (waiter, true) ∈ timeline.errands) : (timeline.stroke setting next).Told waiter := by
  cases change_stroke setting attended.toSound next with
  | nothing calm => exact .inr (calm.errands ▸ coming)
  | runEnds ends waiters watchers errands =>
      rw [Told, errands]
      exact .inr (List.mem_append_left _ coming)
  | joins waiters watchers errands same =>
      rw [Told, errands]
      exact .inr (List.mem_append_left _ coming)
  | passedOn due waiters watchers errands same =>
      rw [due] at coming
      rw [Told, errands]
      exact .inr (by simpa [or_assoc, or_comm, or_left_comm] using coming)
  | watches due occupied waiters watchers errands same =>
      rw [due] at coming
      rw [Told, errands]
      refine .inr ?_
      rcases List.mem_append.mp coming with earlier | here
      · exact List.mem_append_left _ earlier
      · exact List.mem_append_right _ ((List.mem_cons.mp here).resolve_left (by simp))
  | @settles other cancelled before behind due free waiters watchers errands same =>
      have waits := attended.waiting (due ▸ List.mem_append_right before List.mem_cons_self)
      rw [due] at coming
      rw [Told, waiters, errands]
      rcases List.mem_append.mp coming with earlier | here
      · exact .inr (List.mem_append_left _ earlier)
      · rcases List.mem_cons.mp here with own | later
        · obtain ⟨rfl, rfl⟩ := Prod.mk.inj own
          exact .inl (List.getElem?_set_self (List.getElem?_eq_some_iff.mp waits).1)
        · exact .inr (List.mem_append_right _ later)

/-- Those who watch a run are told when it ends in a cancellation, and nobody is told otherwise. -/
theorem Attended.told_stroke (attended : timeline.Attended) (next : Stroke τ) (waiter : Nat) :
    (timeline.stroke setting next).Told waiter ↔
      timeline.Told waiter ∨
        waiter ∈ timeline.watchers ∧ timeline.Ends setting next .cancelled := by
  refine ⟨attended.told_of_told_stroke, ?_⟩
  rintro ((cancelled | coming) | ⟨watches, ends⟩)
  · exact .inl (attended.settled_stroke next cancelled (by simp))
  · exact attended.told_stroke_of_due next coming
  · obtain ⟨-, -, errands⟩ := ends.tells
    refine .inr ?_
    rw [errands]
    exact List.mem_append_right _ (List.mem_map.mpr ⟨waiter, watches, rfl⟩)

/-- Who has been told watched a run that ended in a cancellation. -/
theorem told_after_iff (origin : τ) (strokes : List (Stroke τ)) (waiter : Nat) :
    (after setting origin strokes).Told waiter ↔ ∃ earlier next later,
      strokes = earlier ++ next :: later ∧ waiter ∈ (after setting origin earlier).watchers ∧
        (after setting origin earlier).Ends setting next .cancelled := by
  induction strokes using List.reverseRecOn with
  | nil =>
      constructor
      · rintro (cancelled | coming)
        · cases cancelled
        · cases coming
      · rintro ⟨earlier, next, later, split, -⟩
        simp at split
  | append_singleton strokes last inductionHypothesis =>
      rw [after_concat, (attended_after setting origin strokes).told_stroke, inductionHypothesis]
      constructor
      · rintro (⟨earlier, next, later, rfl, told⟩ | now)
        · exact ⟨earlier, next, later ++ [last], by simp, told⟩
        · exact ⟨strokes, last, [], rfl, now⟩
      · rintro ⟨earlier, next, later, split, told⟩
        rcases List.eq_nil_or_concat later with rfl | ⟨front, final, rfl⟩
        · obtain ⟨rfl, same⟩ := List.append_inj' split rfl
          obtain rfl := List.singleton_inj.mp same
          exact .inr told
        · rw [List.concat_eq_append, ← List.cons_append, ← List.append_assoc] at split
          obtain ⟨rfl, -⟩ := List.append_inj' split rfl
          exact .inl ⟨earlier, next, front, rfl, told⟩

/-- What has become of a waiter stays, whatever happens afterwards. -/
theorem settled_after_append {origin : τ} {strokes : List (Stroke τ)} {waiter : Nat}
    {outcome : Waiter} (found : (after setting origin strokes).waiters[waiter]? = some outcome)
    (settled : outcome ≠ .waiting) (more : List (Stroke τ)) :
    (after setting origin (strokes ++ more)).waiters[waiter]? = some outcome := by
  induction more using List.reverseRecOn with
  | nil => rwa [List.append_nil]
  | append_singleton more last inductionHypothesis =>
      rw [← List.append_assoc, after_concat]
      exact (attended_after setting origin _).settled_stroke last inductionHypothesis settled

end Attention

/-- Waiting ends with the runs, however many follow one another, however they end, and whatever else
happens in whatever order. Nobody is let go while a run is in flight, and what has become of a
waiter stays. Nobody is forgotten: who waits is watching the run in flight or has a callback in the
queue, and once the queue is empty and no run is in flight nobody waits. What runs come to is not
passed on to those who wait, but those who watch a run that ends in a cancellation are cancelled
with it. -/
theorem waiting_ends_with_runs [Add τ] [OfNat τ 0] [LE τ] [DecidableLE τ] (setting : Setting τ ρ)
    (origin : τ) (strokes : List (Stroke τ)) :
    (∀ (next : Stroke τ) (waiter : Nat),
      (after setting origin strokes).waiters[waiter]? = some .waiting →
      (after setting origin (strokes ++ [next])).waiters[waiter]? = some .done →
        (after setting origin strokes).scheduler.active = none ∧
          (after setting origin (strokes ++ [next])).scheduler.active = none) ∧
    (∀ (waiter : Nat) (outcome : Waiter),
      (after setting origin strokes).waiters[waiter]? = some outcome → outcome ≠ .waiting → ∀ more,
        (after setting origin (strokes ++ more)).waiters[waiter]? = some outcome) ∧
    (∀ waiter : Nat, (after setting origin strokes).waiters[waiter]? = some .waiting →
      (waiter ∈ (after setting origin strokes).watchers ∧
          (after setting origin strokes).scheduler.active.isSome = true) ∨
        ∃ cancelled, (waiter, cancelled) ∈ (after setting origin strokes).errands) ∧
    ((after setting origin strokes).ready = [] →
      (after setting origin strokes).scheduler.active = none →
        ∀ waiter : Nat, (after setting origin strokes).waiters[waiter]? ≠ some .waiting) ∧
    ∀ waiter, (after setting origin strokes).Told waiter ↔ ∃ earlier next later,
      strokes = earlier ++ next :: later ∧ waiter ∈ (after setting origin earlier).watchers ∧
        (after setting origin earlier).Ends setting next .cancelled := by
  have attended := attended_after setting origin strokes
  refine ⟨?letGo, fun _ _ found settled => settled_after_append found settled,
    fun _ waits => attended.cases_of_waiting waits, ?quiet, told_after_iff origin strokes⟩
  case letGo =>
    intro next waiter waits letGo
    rw [after_concat] at letGo ⊢
    exact attended.free_of_done waits letGo
  case quiet =>
    intro empty free waiter waits
    rcases attended.cases_of_waiting waits with ⟨-, occupied⟩ | ⟨cancelled, due⟩
    · rw [free] at occupied
      cases occupied
    · rw [errands, empty] at due
      cases due

/-- Not everyone who waits is let go in the end: a run that its runner cancels while it is watched
cancels those who watch it. -/
theorem not_everyone_is_let_go :
    ¬ ∀ (setting : Setting Nat Nat) (origin : Nat) (strokes : List (Stroke Nat)) (waiter : Nat),
      (after setting origin strokes).waiters[waiter]? ≠ some .cancelled := by
  intro letGo
  refine letGo ⟨0, some 1, fun _ _ => ⟨some 1, .cancelled⟩⟩ 0
    [.request "a" none, .timer 0, .callback 0, .callback 0, .waitIdle, .callback 0, .timer 0,
      .callback 0, .callback 0, .callback 0, .callback 0, .callback 0] 0 ?_
  decide

end LintClient.Schedule.Timeline
