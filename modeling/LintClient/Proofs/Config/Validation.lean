import LintClient.Config.Validation
import LintClient.Proofs.Results

/-!
# Valid settings

What it means that there is nothing to complain about: each of the four checks is passed.
-/

namespace LintClient.Config

/-- Settings that pass all checks. -/
structure Valid (host : Host) (config : Config) : Prop where
  debounce : config.debounce.isBelowZero = .ok false
  timeout : config.timeout.isBelowZero = .ok false
  level : ∃ name level, config.logLevel.uppered = .ok name ∧ Level.ofName? name = some level
  jar : config.jarComplaints host = .ok []

/-- There is no complaint exactly if its condition does not hold. -/
theorem complainIf_eq_nil_iff {condition : Bool} {complaint : Complaint} :
    complainIf condition complaint = [] ↔ condition = false := by
  cases condition <;> simp [complainIf]

/-- Nothing is complained about exactly if all checks are passed. -/
theorem complaints_eq_nil_iff {host : Host} {config : Config} :
    config.complaints host = .ok [] ↔ config.Valid host := by
  constructor
  · intro valid
    obtain ⟨negativeDebounce, isDebounce, valid⟩ := bind_eq_ok.mp valid
    obtain ⟨negativeTimeout, isTimeout, valid⟩ := bind_eq_ok.mp valid
    obtain ⟨name, named, valid⟩ := bind_eq_ok.mp valid
    obtain ⟨jar, isJar, nothing⟩ := bind_eq_ok.mp valid
    have without := Except.ok.inj nothing
    simp only [List.append_eq_nil_iff, complainIf_eq_nil_iff, Option.isNone_eq_false_iff,
      Option.isSome_iff_exists] at without
    obtain ⟨⟨⟨rfl, rfl⟩, level, isLevel⟩, rfl⟩ := without
    exact ⟨mapError_eq_ok.mp isDebounce, mapError_eq_ok.mp isTimeout,
      ⟨name, level, mapError_eq_ok.mp named, isLevel⟩, isJar⟩
  · rintro ⟨isDebounce, isTimeout, ⟨name, level, named, isLevel⟩, isJar⟩
    simp only [complaints, isDebounce, isTimeout, named, isJar, mapError_ok, bind, Except.bind,
      isLevel]
    rfl

/-- The level of a valid configuration is one. -/
theorem level_of_valid {host : Host} {config : Config} (valid : config.complaints host = .ok []) :
    ∃ name level, config.logLevel.uppered = .ok name ∧ Level.ofName? name = some level :=
  (complaints_eq_nil_iff.mp valid).level

end LintClient.Config
