import LintClient.Proofs.CommandLine.Gathering
import LintClient.Proofs.Number.Order
import LintClient.Run.Limit

/-!
# Durations

What accepted settings say about time. A duration is read from a text or a number of any of the
three sources, and accepted if it is not below zero. Every number but one is then at least zero, and
a moment that it is added to can be compared with every other (`Usable`). The exception is the
undefined number, which is in no order and so never below zero: where one of the sources says it, it
is accepted (`accepted_durations`).
-/

namespace LintClient

namespace Binary64

/-- A duration that moments can be put off by: it is not negative, and the moment that comes of it
is before or after every other one. -/
structure Usable (duration : Binary64) : Prop where
  nonneg : 0 ≤ duration
  comparable : ∀ now reading : Binary64, now.isFinite = true → reading ≠ .nan →
    now + duration ≤ reading ∨ reading ≤ now + duration

/-- A number that is not below zero is usable, unless it is undefined. -/
theorem usable_or_nan {duration : Binary64} (notBelow : duration.less .zero = false) :
    Usable duration ∨ duration = .nan := by
  rcases nonneg_or_nan notBelow with nonneg | undefined
  · have isNumber : duration ≠ .nan := by
      rintro rfl
      exact (not_le_nan 0).1 nonneg
    exact .inl ⟨nonneg, fun _ _ finite isReading => le_total (add_ne_nan finite isNumber) isReading⟩
  · exact .inr undefined

/-- The undefined number is not usable. -/
theorem not_usable_nan : ¬ Usable .nan := fun usable => (not_le_nan 0).1 usable.nonneg

/-- A time limit that is usable does not expire before the run begins. -/
theorem Usable.limit_ne_expired {seconds : Binary64} (usable : Usable seconds) :
    Run.limitOf (.float seconds) ≠ .ok .expired := by
  have isNumber : seconds ≠ .nan := fun undefined => not_usable_nan (undefined ▸ usable)
  have notBelow : seconds.less 0 = false := not_less_of_le usable.nonneg
  have inTime : Run.limitOfSeconds seconds ≠ .expired := by
    simp only [Run.limitOfSeconds, isNumber, notBelow, decide_false, Bool.or_self,
      Bool.false_eq_true, ↓reduceIte]
    split <;> exact nofun
  unfold Run.limitOf
  split
  · exact nofun
  · exact fun expired => inTime (Except.ok.inj expired)

end Binary64

namespace CommandLine

open Config (SourceFault ofFile override durationOf durationOfText)

/-! ## Where the undefined number comes from -/

/-- A value of a file stands for the undefined number. -/
def StandsForNan (value : Json) : Prop :=
  value = .float .nan ∨ ∃ text, value = .str text ∧ Binary64.ofText? text = some .nan

/-- The environment or the file says that a duration is the undefined number. -/
inductive SaysNan (host : Host) (arguments : Arguments) (setting name : String) : Prop where
  | environment {text : String} (isSet : host.setting setting = some text)
      (spells : Binary64.ofText? text = some .nan) : SaysNan host arguments setting name
  | file {value : Json} (inFile : InFile host arguments name value) (stands : StandsForNan value) :
      SaysNan host arguments setting name

/-- A text that is read as the undefined number spells it. -/
theorem spells_of_durationOfText {text : String} (read : durationOfText text = .ok (.float .nan)) :
    Binary64.ofText? text = some .nan := by
  unfold durationOfText at read
  split at read
  · next number spelt =>
    cases read
    exact spelt
  · cases read

/-- A value that is read as the undefined number stands for it: integers and truth values do not. -/
theorem stands_of_durationOf {value : Json} (read : durationOf value = .ok (.float .nan)) :
    StandsForNan value := by
  unfold durationOf at read
  split at read
  · next text => exact .inr ⟨text, rfl, spells_of_durationOfText read⟩
  · cases read
  · obtain ⟨seconds, isNumber, same⟩ := map_eq_ok.mp (mapError_eq_ok.mp read)
    cases same
    unfold Json.toBinary64 at isNumber
    split at isNumber
    · next number =>
      cases isNumber
      exact .inl rfl
    · split at isNumber
      · dsimp only at isNumber
        split at isNumber
        · next finite =>
          rw [Except.ok.inj isNumber] at finite
          cases finite
        · cases isNumber
      · cases isNumber

section Sources

variable {host : Host} {arguments : Arguments} {setting name : String}

/-- What the environment gives for a duration is the undefined number only if it says so. -/
theorem saysNan_of_environment {usual : String} (isUsual : Binary64.ofText? usual ≠ some .nan)
    (read : durationOfText ((host.setting setting).getD usual) = .ok (.float .nan)) :
    SaysNan host arguments setting name := by
  have spells := spells_of_durationOfText read
  cases isSet : host.setting setting with
  | none =>
      rw [isSet, Option.getD_none] at spells
      exact absurd spells isUsual
  | some text =>
      rw [isSet, Option.getD_some] at spells
      exact .environment isSet spells

/-- What a file gives for a duration is the undefined number only if it says so. -/
theorem saysNan_of_file {path : String} {members : List (String × Json)} {usual : Binary64}
    (isUsual : usual ≠ .nan) (named : said arguments.config = some path)
    (holds : HoldsMembers host path members)
    (read : durationOf ((Json.member? name members).getD (.float usual)) = .ok (.float .nan)) :
    SaysNan host arguments setting name := by
  cases given : Json.member? name members with
  | none =>
      rw [given] at read
      cases read
      exact absurd rfl isUsual
  | some value =>
      rw [given, Option.getD_some] at read
      have present : value ≠ .null := by
        rintro rfl
        cases read
      exact .file ⟨path, members, named, holds, given, present⟩ (stands_of_durationOf read)

/-- What overrides a duration, or is overridden by nothing, comes from one of both. -/
theorem eq_of_override {usual earlier later value : Json}
    (same : override usual earlier later = value) : earlier = value ∨ later = value := by
  unfold override at same
  split at same
  · exact .inl same
  · exact .inr same

end Sources

section Gathered

variable {host : Host} {arguments : Arguments} {config : Config}

/-- The durations of the environment are read from its variables, or are the usual ones. -/
theorem durations_of_environment (isEnvironment : Config.ofEnvironment host = .ok config) :
    durationOfText ((host.setting "SQFLINT_DEBOUNCE").getD "0.2") = .ok config.debounce ∧
      durationOfText ((host.setting "SQFLINT_TIMEOUT").getD "30") = .ok config.timeout := by
  obtain ⟨_, _, isEnvironment⟩ := bind_eq_ok.mp isEnvironment
  obtain ⟨debounce, isDebounce, isEnvironment⟩ := bind_eq_ok.mp isEnvironment
  obtain ⟨timeout, isTimeout, isEnvironment⟩ := bind_eq_ok.mp isEnvironment
  cases isEnvironment
  exact ⟨isDebounce, isTimeout⟩

/-- Of the environment and the file one says that a duration is undefined, if it is. -/
theorem saysNan_of_sourcedConfig (isSourced : sourcedConfig host arguments = .ok config) :
    (config.debounce = .float .nan → SaysNan host arguments "SQFLINT_DEBOUNCE" "debounce_seconds") ∧
      (config.timeout = .float .nan →
        SaysNan host arguments "SQFLINT_TIMEOUT" "timeout_seconds") := by
  obtain ⟨environment, isEnvironment, isSourced⟩ := bind_eq_ok.mp isSourced
  obtain ⟨readDebounce, readTimeout⟩ := durations_of_environment isEnvironment
  have debounce : environment.debounce = .float .nan →
      SaysNan host arguments "SQFLINT_DEBOUNCE" "debounce_seconds" := fun undefined =>
    saysNan_of_environment (by decide +kernel) (readDebounce.trans (congrArg Except.ok undefined))
  have timeout : environment.timeout = .float .nan →
      SaysNan host arguments "SQFLINT_TIMEOUT" "timeout_seconds" := fun undefined =>
    saysNan_of_environment (by decide +kernel) (readTimeout.trans (congrArg Except.ok undefined))
  cases named : said arguments.config with
  | none =>
      rw [named] at isSourced
      cases isSourced
      exact ⟨debounce, timeout⟩
  | some path =>
      rw [named] at isSourced
      obtain ⟨file, isFile, isSourced⟩ := bind_eq_ok.mp isSourced
      cases isSourced
      have outcome := fileOutcome_ofFile host path
      rw [isFile] at outcome
      cases outcome with
      | config holds isDebounce isTimeout =>
          constructor
          · intro undefined
            rcases eq_of_override undefined with earlier | later
            · exact debounce earlier
            · exact saysNan_of_file (by decide +kernel) named holds
                (isDebounce.trans (congrArg Except.ok later))
          · intro undefined
            rcases eq_of_override undefined with earlier | later
            · exact timeout earlier
            · exact saysNan_of_file (by decide +kernel) named holds
                (isTimeout.trans (congrArg Except.ok later))

/-- The arguments may say so of the time limit, too. -/
theorem saysNan_of_config (gathered : CommandLine.config host arguments = .ok config) :
    (config.debounce = .float .nan → SaysNan host arguments "SQFLINT_DEBOUNCE" "debounce_seconds") ∧
      (config.timeout = .float .nan →
        SaysNan host arguments "SQFLINT_TIMEOUT" "timeout_seconds" ∨
          arguments.timeout = some .nan) := by
  obtain ⟨sourced, isSourced, gathered⟩ := bind_eq_ok.mp gathered
  obtain ⟨_, _, gathered⟩ := bind_eq_ok.mp gathered
  cases gathered
  obtain ⟨debounce, timeout⟩ := saysNan_of_sourcedConfig isSourced
  refine ⟨debounce, fun undefined => ?_⟩
  unfold saidTimeout at undefined
  split at undefined
  · cases undefined
  · cases given : arguments.timeout with
    | none =>
        rw [given] at undefined
        exact .inl (timeout undefined)
    | some seconds =>
        rw [given] at undefined
        exact .inr (congrArg some (Json.float.inj undefined))

/-- A duration that is not below zero is usable, or it is undefined. -/
theorem usable_or_nan_of_valid {duration : Json} {seconds : Binary64}
    (isSeconds : duration = .float seconds)
    (notBelow : duration.isBelowZero = .ok false) : seconds.Usable ∨ duration = .float .nan := by
  subst isSeconds
  exact (Binary64.usable_or_nan (Except.ok.inj notBelow)).imp_right (congrArg Json.float)

/-- Whatever the environment, the file and the arguments are, both durations of accepted settings
are numbers. Each of them is usable: it is not negative, a moment that it is added to can be
compared with every other, and a time limit that is one does not expire before the run begins. Or it
is the undefined number, and then one of its sources says so: a text of the environment, a number or
text of the file, or the time limit of the arguments. -/
theorem accepted_durations (accepted : settings host arguments = .ok config) :
    ∃ debounce timeout : Binary64,
      config.debounce = .float debounce ∧ config.timeout = .float timeout ∧
      (debounce.Usable ∨
        debounce = .nan ∧ SaysNan host arguments "SQFLINT_DEBOUNCE" "debounce_seconds") ∧
      (timeout.Usable ∧ Run.limitOf config.timeout ≠ .ok .expired ∨
        timeout = .nan ∧ (SaysNan host arguments "SQFLINT_TIMEOUT" "timeout_seconds" ∨
          arguments.timeout = some .nan)) := by
  obtain ⟨gathered, valid⟩ := settings_eq_ok_iff.mp accepted
  have checked := Config.complaints_eq_nil_iff.mp valid
  have known := accepted_of_settings accepted
  obtain ⟨debounce, isDebounce⟩ := known.debounce
  obtain ⟨timeout, isTimeout⟩ := known.timeout
  obtain ⟨saysDebounce, saysTimeout⟩ := saysNan_of_config gathered
  refine ⟨debounce, timeout, isDebounce, isTimeout, ?_, ?_⟩
  · rcases usable_or_nan_of_valid isDebounce checked.debounce with usable | undefined
    · exact .inl usable
    · exact .inr ⟨Json.float.inj (isDebounce.symm.trans undefined), saysDebounce undefined⟩
  · rcases usable_or_nan_of_valid isTimeout checked.timeout with usable | undefined
    · exact .inl ⟨usable, isTimeout ▸ usable.limit_ne_expired⟩
    · exact .inr ⟨Json.float.inj (isTimeout.symm.trans undefined), saysTimeout undefined⟩

end Gathered

/-! ## A time limit that is undefined -/

/-- A host whose environment gives a command, and no number as the time limit. -/
def hostWithNan : Host := Host.fresh [("SQFLINT_COMMAND", "cat"), ("SQFLINT_TIMEOUT", "nan")]

/-- A call with one file. -/
def withFile : Arguments := { Arguments.none with files := ["a.sqf"] }

/-- Whether the time limit is undefined. -/
def hasNanTimeout (config : Config) : Bool :=
  match config.timeout with
  | .float .nan => true
  | _ => false

/-- The settings are accepted, and their time limit is the undefined number. -/
theorem exists_hasNanTimeout : ∃ config,
    settings hostWithNan withFile = .ok config ∧ config.timeout = .float .nan := by
  have undefined : (settings hostWithNan withFile).toOption.any hasNanTimeout = true := by
    decide +kernel
  obtain ⟨config, accepted, known⟩ := exists_of_any_toOption undefined
  unfold hasNanTimeout at known
  split at known
  · next isNan => exact ⟨config, accepted, isNan⟩
  · cases known

/-- The undefined number is accepted, and it is the environment that says it. The debounce interval,
of which nothing is said, is usable. -/
theorem accepted_durations_nan : ∃ config, settings hostWithNan withFile = .ok config ∧
    config.timeout = .float .nan ∧
    SaysNan hostWithNan withFile "SQFLINT_TIMEOUT" "timeout_seconds" ∧
    ∃ debounce : Binary64, config.debounce = .float debounce ∧ debounce.Usable := by
  obtain ⟨config, accepted, isNan⟩ := exists_hasNanTimeout
  obtain ⟨debounce, timeout, isDebounce, isTimeout, ofDebounce, ofTimeout⟩ :=
    accepted_durations accepted
  obtain rfl := Json.float.inj (isNan.symm.trans isTimeout)
  refine ⟨config, accepted, isNan, ?_, debounce, isDebounce, ?_⟩
  · rcases ofTimeout with ⟨usable, -⟩ | ⟨-, stated | given⟩
    · exact absurd usable Binary64.not_usable_nan
    · exact stated
    · cases given
  · rcases ofDebounce with usable | ⟨-, stated⟩
    · exact usable
    · cases stated with
      | environment isSet => cases isSet
      | file inFile =>
          obtain ⟨path, members, named, -⟩ := inFile
          cases named

/-- So it is not so that all accepted durations are at least zero. -/
theorem not_every_accepted_duration_is_nonnegative : ¬ ∀ (host : Host) (arguments : Arguments)
    (config : Config), settings host arguments = .ok config →
      ∃ debounce timeout : Binary64, config.debounce = .float debounce ∧
        config.timeout = .float timeout ∧ 0 ≤ debounce ∧ 0 ≤ timeout := by
  intro always
  obtain ⟨config, accepted, isNan⟩ := exists_hasNanTimeout
  obtain ⟨debounce, timeout, -, isTimeout, -, nonneg⟩ := always hostWithNan withFile config accepted
  obtain rfl := Json.float.inj (isNan.symm.trans isTimeout)
  exact (Binary64.not_le_nan 0).1 nonneg

end CommandLine

end LintClient
