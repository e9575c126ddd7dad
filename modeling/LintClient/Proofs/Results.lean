/-!
# Results

When a computation that may fail comes to a result.
-/

namespace LintClient

variable {ε ε' α β : Type}

/-- What goes on after a computation comes to a result if both do. -/
theorem bind_eq_ok {computation : Except ε α} {next : α → Except ε β} {result : β} :
    (computation >>= next) = .ok result ↔
      ∃ value, computation = .ok value ∧ next value = .ok result := by
  cases computation with
  | error failure => exact ⟨nofun, nofun⟩
  | ok value => simp [bind, Except.bind]

/-- What goes on after a computation fails if one of both does. -/
theorem bind_eq_error {computation : Except ε α} {next : α → Except ε β} {failure : ε} :
    (computation >>= next) = .error failure ↔ computation = .error failure ∨
      ∃ value, computation = .ok value ∧ next value = .error failure := by
  cases computation <;> simp [bind, Except.bind]

/-- A changed result comes from a result. -/
theorem map_eq_ok {computation : Except ε α} {change : α → β} {result : β} :
    computation.map change = .ok result ↔
      ∃ value, computation = .ok value ∧ change value = result := by
  cases computation <;> simp [Except.map]

/-- A changed result fails for the reason for which the computation fails. -/
theorem map_eq_error {computation : Except ε α} {change : α → β} {failure : ε} :
    computation.map change = .error failure ↔ computation = .error failure := by
  cases computation <;> simp [Except.map]

/-- Wording failures differently leaves results as they are. -/
theorem mapError_ok (change : ε → ε') (result : α) :
    (Except.ok result : Except ε α).mapError change = .ok result := rfl

/-- A failure is worded differently. -/
theorem mapError_error (change : ε → ε') (failure : ε) :
    (Except.error failure : Except ε α).mapError change = .error (change failure) := rfl

/-- Failures may be worded differently. -/
theorem mapError_eq_ok {computation : Except ε α} {change : ε → ε'} {result : α} :
    computation.mapError change = .ok result ↔ computation = .ok result := by
  cases computation with
  | error failure => exact ⟨nofun, nofun⟩
  | ok value => rw [mapError_ok, Except.ok.injEq, Except.ok.injEq]

/-- A failure that is worded differently is that of the computation. -/
theorem mapError_eq_error {computation : Except ε α} {change : ε → ε'} {failure : ε'} :
    computation.mapError change = .error failure ↔
      ∃ cause, computation = .error cause ∧ change cause = failure := by
  cases computation with
  | error cause => simp [mapError_error]
  | ok value => simp [mapError_ok]

/-- If not all of some computations come to a result, then because one of them fails. -/
theorem exists_of_mapM_eq_error {computation : α → Except ε β} {items : List α} {failure : ε}
    (failed : items.mapM computation = .error failure) :
    ∃ item ∈ items, computation item = .error failure := by
  induction items with
  | nil => cases failed
  | cons item items inductionHypothesis =>
      rw [List.mapM_cons] at failed
      rcases bind_eq_error.mp failed with failed | ⟨result, _, failed⟩
      · exact ⟨item, List.mem_cons_self, failed⟩
      · rcases bind_eq_error.mp failed with failed | ⟨results, _, failed⟩
        · obtain ⟨failing, among, fails⟩ := inductionHypothesis failed
          exact ⟨failing, List.mem_cons_of_mem _ among, fails⟩
        · cases failed

/-- Every result of some computations is that of one of them. -/
theorem exists_of_mem_mapM {computation : α → Except ε β} {items : List α} {results : List β}
    (succeeds : items.mapM computation = .ok results) {result : β} (there : result ∈ results) :
    ∃ item ∈ items, computation item = .ok result := by
  induction items generalizing results with
  | nil =>
      cases succeeds
      cases there
  | cons item items inductionHypothesis =>
      rw [List.mapM_cons] at succeeds
      obtain ⟨first, isFirst, succeeds⟩ := bind_eq_ok.mp succeeds
      obtain ⟨others, areOthers, same⟩ := bind_eq_ok.mp succeeds
      cases same
      rcases List.mem_cons.mp there with rfl | later
      · exact ⟨item, List.mem_cons_self, isFirst⟩
      · obtain ⟨other, among, gives⟩ := inductionHypothesis areOthers later
        exact ⟨other, List.mem_cons_of_mem _ among, gives⟩

/-- Computations that fail for one reason only fail for it together, unless none of them fails. -/
theorem mapM_map_of_decided {α' : Type} {computation : α' → Except ε β} {checked : α → α'}
    {result : α → β} {failure : ε} {check : α → Bool}
    (decided : ∀ item, computation (checked item) =
      if check item then .ok (result item) else .error failure) (items : List α) :
    (items.map checked).mapM computation =
      if items.all check then .ok (items.map result) else .error failure := by
  induction items with
  | nil => rfl
  | cons item items inductionHypothesis =>
      rw [List.map_cons, List.mapM_cons, decided, inductionHypothesis, List.all_cons]
      cases check item with
      | false => rfl
      | true =>
          rw [Bool.true_and]
          cases items.all check <;> rfl

/-- The result is all that is kept of a computation that comes to one. -/
theorem toOption_eq_some {computation : Except ε α} {result : α} :
    computation.toOption = some result ↔ computation = .ok result := by
  cases computation <;> simp [Except.toOption]

/-- A computation that is known to succeed has a result. -/
theorem exists_of_isOk {computation : Except ε α} (succeeds : computation.isOk = true) :
    ∃ result, computation = .ok result := by
  cases computation with
  | error failure => cases succeeds
  | ok result => exact ⟨result, rfl⟩

/-- A computation whose result passes a check has a result. -/
theorem exists_of_any_toOption {computation : Except ε α} {check : α → Bool}
    (passes : computation.toOption.any check = true) :
    ∃ result, computation = .ok result ∧ check result = true := by
  cases computation with
  | error failure => cases passes
  | ok result => exact ⟨result, rfl, passes⟩

end LintClient
