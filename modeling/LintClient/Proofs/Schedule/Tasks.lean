import LintClient.Proofs.Schedule.Workshop

/-!
# Tasks that go on

When one task goes on, the list of tasks changes in one place. What is seen of the list afterwards
follows from what is seen of the one task before and after.
-/

namespace LintClient.Schedule.Workshop

/-- A thing at a place stands between those before it and those after it, and so does what takes its
place. -/
theorem exists_split {α : Type} {items : List α} {index : Nat} {old : α}
    (found : items[index]? = some old) : ∃ before after, before.length = index ∧
      items = before ++ old :: after ∧ ∀ new, items.set index new = before ++ new :: after := by
  obtain ⟨bound, rfl⟩ := List.getElem?_eq_some_iff.mp found
  refine ⟨items.take index, items.drop (index + 1), List.length_take_of_le (by omega), ?_, ?_⟩
  · rw [← List.drop_eq_getElem_cons bound, List.take_append_drop]
  · intro new
    rw [List.set_eq_take_append_cons_drop, if_pos bound]

section View

variable {α β : Type} (view : α → Option β) {items : List α} {index : Nat} {old new : α}

/-- Among things of which one alone counts, changing that one decides what counts. -/
theorem filterMap_set_only {value : β} (found : items[index]? = some old)
    (counts : view old = some value) (only : items.filterMap view = [value]) :
    (items.set index new).filterMap view = (view new).toList := by
  obtain ⟨before, after, -, split, change⟩ := exists_split found
  rw [split, List.filterMap_append, List.filterMap_cons_some counts] at only
  have alone : before.filterMap view = [] ∧ after.filterMap view = [] := by
    have size := congrArg List.length only
    simp only [List.length_append, List.length_cons, List.length_nil] at size
    constructor <;> exact List.eq_nil_of_length_eq_zero (by omega)
  rw [change, List.filterMap_append, alone.1, List.nil_append, List.filterMap_cons, alone.2]
  cases view new <;> rfl

/-- Changing a thing that looks the same afterwards changes nothing that is seen. -/
theorem filterMap_set_same (found : items[index]? = some old) (same : view new = view old) :
    (items.set index new).filterMap view = items.filterMap view := by
  obtain ⟨before, after, -, split, change⟩ := exists_split found
  rw [change, split, List.filterMap_append, List.filterMap_append, List.filterMap_cons,
    List.filterMap_cons, same]

/-- The last thing comes into view at the end. -/
theorem filterMap_set_last {value : β} (found : items[index]? = some old)
    (last : index + 1 = items.length) (hidden : view old = none) (seen : view new = some value) :
    (items.set index new).filterMap view = items.filterMap view ++ [value] := by
  obtain ⟨before, after, place, split, change⟩ := exists_split found
  have nothing : after = [] := by
    rw [split, List.length_append, List.length_cons] at last
    exact List.eq_nil_of_length_eq_zero (by omega)
  rw [change, split, nothing, List.filterMap_append, List.filterMap_append,
    List.filterMap_cons_none hidden, List.filterMap_cons_some seen, List.filterMap_nil,
    List.append_nil]

end View

/-! ## Tasks -/

variable {ρ : Type} {tasks : List (Task ρ)} {index request : Nat} {contents : String}
  {phase changed : TaskPhase ρ}

/-- A task that goes on keeps its request. -/
theorem map_request_set (found : tasks[index]? = some ⟨request, contents, phase⟩) :
    (tasks.set index ⟨request, contents, changed⟩).map Task.request =
      tasks.map Task.request := by
  apply List.ext_getElem?
  intro place
  rw [List.getElem?_map, List.getElem?_map, List.getElem?_set]
  split
  next same =>
    subst same
    obtain ⟨bound, there⟩ := List.getElem?_eq_some_iff.mp found
    simp [bound, there]
  next => rfl

/-- A task after one has gone on was there before, with the same request and text. -/
theorem exists_of_mem_set (found : tasks[index]? = some ⟨request, contents, phase⟩)
    {task : Task ρ} (member : task ∈ tasks.set index ⟨request, contents, changed⟩) :
    ∃ known ∈ tasks, known.request = task.request ∧ known.contents = task.contents := by
  rcases List.mem_or_eq_of_mem_set member with known | rfl
  · exact ⟨task, known, rfl, rfl⟩
  · exact ⟨_, List.mem_of_getElem? found, rfl, rfl⟩

/-- The other tasks stay when one goes on. -/
theorem mem_set_of_phase_ne (found : tasks[index]? = some ⟨request, contents, phase⟩)
    {task : Task ρ} (member : task ∈ tasks) (different : task.phase ≠ phase) :
    task ∈ tasks.set index ⟨request, contents, changed⟩ := by
  obtain ⟨place, foundThere⟩ := List.mem_iff_getElem?.mp member
  have elsewhere : index ≠ place := by
    rintro rfl
    rw [found, Option.some.injEq] at foundThere
    exact different (foundThere ▸ rfl)
  exact List.mem_of_getElem? ((List.getElem?_set_ne elsewhere).trans foundThere)

end LintClient.Schedule.Workshop
