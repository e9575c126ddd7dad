import LintClient.Proofs.CommandLine.Status
import LintClient.Proofs.Run.Endings

/-!
# The kinds of settings

Only a configuration file can give a setting a value of a wrong kind. What the environment and the
arguments say is taken as text and read where a number is due.
-/

namespace LintClient

/-- A value is a number as durations are. -/
def Json.IsSeconds (value : Json) : Prop := ∃ seconds, value = .float seconds

/-- All settings have values of the kinds that are expected of them, and their texts are made of
characters. -/
structure Config.Plain (config : Config) : Prop where
  javaPath : config.javaPath = .null ∨ config.javaPath.IsString
  jarPath : config.jarPath.IsString
  linterArgs : config.linterArgs.AreStrings
  command : config.command.AreStrings
  debounce : config.debounce.IsSeconds
  timeout : config.timeout.IsSeconds
  logLevel : config.logLevel.IsString

namespace Config

/-- Settings whose texts are made of characters are of the right kinds. -/
theorem Plain.wellKinded {config : Config} (plain : config.Plain) : config.WellKinded where
  javaPath := plain.javaPath.imp_right Json.IsString.isText
  jarPath := plain.jarPath.isText
  linterArgs := plain.linterArgs.areTexts
  command := plain.command.areTexts
  timeout := plain.timeout

/-- The text of a duration is read as a number. -/
theorem isSeconds_of_durationOfText {text : String} {duration : Json}
    (read : durationOfText text = .ok duration) : duration.IsSeconds := by
  unfold durationOfText at read
  split at read
  · next number _ =>
    cases read
    exact ⟨number, rfl⟩
  · cases read

/-- The settings of the environment are of the right kinds. -/
theorem plain_ofEnvironment {host : Host} {config : Config}
    (read : ofEnvironment host = .ok config) : config.Plain := by
  obtain ⟨command, _, read⟩ := bind_eq_ok.mp read
  obtain ⟨debounce, isDebounce, read⟩ := bind_eq_ok.mp read
  obtain ⟨timeout, isTimeout, read⟩ := bind_eq_ok.mp read
  cases read
  constructor
  case javaPath =>
    cases host.setting "SQFLINT_JAVA" with
    | none => exact .inl rfl
    | some path => exact .inr ⟨path, rfl⟩
  case jarPath => exact ⟨_, rfl⟩
  case linterArgs =>
    simp only
    split
    · exact ⟨["-j", "-v"], rfl⟩
    · exact ⟨["-j", "-v"], rfl⟩
    · next text _ _ => exact ⟨(Text.words text.toList).map String.ofList, by simp⟩
  case command => exact ⟨command, rfl⟩
  case debounce => exact isSeconds_of_durationOfText isDebounce
  case timeout => exact isSeconds_of_durationOfText isTimeout
  case logLevel => exact ⟨_, rfl⟩

end Config

namespace CommandLine

/-- What is said as text has the right kind. -/
theorem isString_getD {α : Type} {write : α → String} {said : Option α} {otherwise : Json}
    (isString : otherwise.IsString) :
    ((said.map fun item => Json.str (write item)).getD otherwise).IsString := by
  cases said with
  | none => exact isString
  | some item => exact ⟨write item, rfl⟩

/-- A time limit that can be compared is not one that got lost. -/
theorem isSeconds_getD {arguments : Arguments} {otherwise : Json} {below : Bool}
    (compared : ((saidTimeout arguments).getD otherwise).isBelowZero = .ok below)
    (isSeconds : otherwise.IsSeconds) : ((saidTimeout arguments).getD otherwise).IsSeconds := by
  unfold saidTimeout at compared ⊢
  split
  · next lost =>
    rw [if_pos lost] at compared
    cases compared
  · cases arguments.timeout with
    | none => exact isSeconds
    | some seconds => exact ⟨seconds, rfl⟩

/-- Settings that are accepted are of the right kinds and made of characters, unless they come from
a file. -/
theorem plain_of_noFile {host : Host} {arguments : Arguments} {config : Config}
    (accepted : settings host arguments = .ok config) (noFile : said arguments.config = none) :
    config.Plain := by
  obtain ⟨gathered, valid⟩ := settings_eq_ok_iff.mp accepted
  have compared := (Config.complaints_eq_nil_iff.mp valid).timeout
  obtain ⟨sourced, isSourced, gathered⟩ := bind_eq_ok.mp gathered
  obtain ⟨command, isCommand, gathered⟩ := bind_eq_ok.mp gathered
  have plain : sourced.Plain := by
    obtain ⟨environment, read, isSourced⟩ := bind_eq_ok.mp isSourced
    rw [noFile] at isSourced
    cases isSourced
    exact Config.plain_ofEnvironment read
  cases gathered
  constructor
  case javaPath =>
    cases said arguments.java with
    | none => exact plain.javaPath
    | some path => exact .inr ⟨path, rfl⟩
  case jarPath => exact isString_getD plain.jarPath
  case linterArgs => exact plain.linterArgs
  case command =>
    cases command with
    | none => exact plain.command
    | some words => exact ⟨words, rfl⟩
  case debounce => exact plain.debounce
  case timeout => exact isSeconds_getD compared plain.timeout
  case logLevel => exact isString_getD plain.logLevel

end CommandLine

end LintClient
