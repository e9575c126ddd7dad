import LintClient.Proofs.CommandLine.Kinds
import Mathlib

/-!
# Gathering settings

Where the settings of a call come from, and what becomes of them. Durations are read as numbers and
the level is looked up, so that what is accepted there is of the right kind. All other values of a
file are taken over as they are: a value of the wrong kind is accepted, or stops the program where
nobody foresees it. `settings_outcomes` says where each of both comes from; without a file, or with
one whose values are of the right kinds, neither happens.
-/

namespace LintClient

/-! ## Kinds of values -/

/-- All settings have values of the kinds that are expected of them. -/
structure Config.Typed (config : Config) : Prop extends config.WellKinded where
  debounce : config.debounce.IsSeconds
  logLevel : config.logLevel.IsText

/-- Texts that are made of characters are texts. -/
theorem Config.Plain.typed {config : Config} (plain : config.Plain) : config.Typed :=
  ⟨plain.wellKinded, plain.debounce, plain.logLevel.isText⟩

namespace CommandLine

open Config (SourceFault ofFile ofJson override durationOf durationOfText
  isSeconds_of_durationOfText)

/-! ## Files -/

/-- A text is what stands in a file. -/
def Reads (host : Host) (path : String) (text : List Char) : Prop :=
  Host.holdsNul path = false ∧ ∃ bytes characters, host.read path = .ok bytes ∧
    Text.Utf8.decodeStrict bytes = .ok characters ∧ text = Text.universalNewlines characters

/-- A file holds a value. -/
def Holds (host : Host) (path : String) (value : Json) : Prop :=
  ∃ text, Reads host path text ∧ Json.Document.document text = .ok value

/-- A file holds an object, with these members under keys that are made of characters. -/
def HoldsMembers (host : Host) (path : String) (members : List (String × Json)) : Prop :=
  ∃ value, Holds host path value ∧ value.members? = some members

/-- The file that the arguments name gives a value other than null for a setting. -/
def InFile (host : Host) (arguments : Arguments) (name : String) (value : Json) : Prop :=
  ∃ path members, said arguments.config = some path ∧ HoldsMembers host path members ∧
    Json.member? name members = some value ∧ value ≠ .null

/-- What nobody foresees about a file: that it is nested too deep, that it is no object, or that
something else than a text or a number that is not too large stands for a duration. -/
inductive Misshapen (host : Host) (path : String) : SourceFault → Prop where
  | nestedTooDeep {text rest : List Char} (reads : Reads host path text)
      (refused : Json.Document.document text = .error ⟨.nestedTooDeep, rest⟩) :
      Misshapen host path (.json ⟨.nestedTooDeep, rest⟩ text)
  | noObject {value : Json} (holds : Holds host path value)
      (noObject : value.members? = none) : Misshapen host path (.misuse .lacking)
  | noDuration {members : List (String × Json)} {name : String} {value : Json} {cause : Json.Misuse}
      (holds : HoldsMembers host path members)
      (isDuration : name = "debounce_seconds" ∨ name = "timeout_seconds")
      (given : Json.member? name members = some value) (noText : ¬ value.IsText)
      (noNumber : value.toBinary64 = .error cause) : Misshapen host path (.misuse cause)

/-- The settings of an object. -/
def givenBy (members : List (String × Json)) (debounce timeout : Json) : Config where
  javaPath := (Json.member? "java_path" members).getD Config.usual.javaPath
  jarPath := (Json.member? "jar_path" members).getD Config.usual.jarPath
  linterArgs := (Json.member? "linter_args" members).getD Config.usual.linterArgs
  command := (Json.member? "command" members).getD Config.usual.command
  debounce := debounce
  timeout := timeout
  logLevel := (Json.member? "log_level" members).getD Config.usual.logLevel

/-- What can come of reading a file of settings. -/
inductive FileOutcome (host : Host) (path : String) : Except SourceFault Config → Prop where
  | told {fault : SourceFault} {message : String} (told : sourceHalt fault = .failure message) :
      FileOutcome host path (.error fault)
  | misshapen {fault : SourceFault} (misshapen : Misshapen host path fault) :
      FileOutcome host path (.error fault)
  | config {members : List (String × Json)} (holds : HoldsMembers host path members)
      {debounce timeout : Binary64}
      (isDebounce : durationOf ((Json.member? "debounce_seconds" members).getD
        Config.usual.debounce) = .ok (.float debounce))
      (isTimeout : durationOf ((Json.member? "timeout_seconds" members).getD
        Config.usual.timeout) = .ok (.float timeout)) :
      FileOutcome host path (.ok (givenBy members (.float debounce) (.float timeout)))

/-- A duration is read as a number. -/
theorem float_of_durationOf {value duration : Json} (read : durationOf value = .ok duration) :
    ∃ seconds, duration = .float seconds := by
  unfold durationOf at read
  split at read
  · exact isSeconds_of_durationOfText read
  · cases read
  · obtain ⟨seconds, -, same⟩ := map_eq_ok.mp (mapError_eq_ok.mp read)
    exact ⟨seconds, same.symm⟩

/-- A text that spells no number is told about. -/
theorem told_of_durationOfText {text : String} {fault : SourceFault}
    (unread : durationOfText text = .error fault) :
    ∃ message, sourceHalt fault = .failure message := by
  unfold durationOfText at unread
  split at unread
  · cases unread
  · cases unread
    exact ⟨_, rfl⟩

/-- A duration that is not read is a text that spells no number, or the file is misshapen. -/
theorem fileOutcome_of_duration {host : Host} {path : String} {members : List (String × Json)}
    (holds : HoldsMembers host path members) {name : String}
    (isDuration : name = "debounce_seconds" ∨ name = "timeout_seconds") {usual : Binary64}
    {fault : SourceFault}
    (unread : durationOf ((Json.member? name members).getD (.float usual)) = .error fault) :
    FileOutcome host path (.error fault) := by
  cases given : Json.member? name members with
  | none =>
      rw [given] at unread
      cases unread
  | some value =>
      rw [given, Option.getD_some] at unread
      unfold durationOf at unread
      split at unread
      · obtain ⟨message, told⟩ := told_of_durationOfText unread
        exact .told told
      · cases unread
        exact .told rfl
      · next noString noStray =>
        obtain ⟨cause, failed, rfl⟩ := mapError_eq_error.mp unread
        have noText : ¬ value.IsText := fun isText => by
          rcases Json.isText_iff.mp isText with ⟨text, same⟩ | ⟨text, same⟩
          · exact noString text same
          · exact noStray text same
        exact .misshapen (.noDuration holds isDuration given noText (map_eq_error.mp failed))

/-- What can come of the value in a file. -/
theorem fileOutcome_ofJson {host : Host} {path : String} {value : Json}
    (holds : Holds host path value) :
    FileOutcome host path (ofJson value) := by
  unfold ofJson
  split
  · next members isObject =>
    have holds : HoldsMembers host path members := ⟨value, holds, isObject⟩
    cases isRead :
      durationOf ((Json.member? "debounce_seconds" members).getD Config.usual.debounce) with
    | error fault =>
        simp only [isRead]
        exact fileOutcome_of_duration holds (.inl rfl) isRead
    | ok debounce =>
        cases alsoRead :
            durationOf ((Json.member? "timeout_seconds" members).getD Config.usual.timeout) with
        | error fault =>
            simp only [isRead, alsoRead]
            exact fileOutcome_of_duration holds (.inr rfl) alsoRead
        | ok timeout =>
            simp only [isRead, alsoRead]
            obtain ⟨debounce, rfl⟩ := float_of_durationOf isRead
            obtain ⟨timeout, rfl⟩ := float_of_durationOf alsoRead
            exact .config holds isRead alsoRead
  · next noObject => exact .misshapen (.noObject holds noObject)

/-- What can come of a file, whatever is in it. -/
theorem fileOutcome_ofFile (host : Host) (path : String) :
    FileOutcome host path (ofFile host path) := by
  unfold ofFile
  split
  · exact .told rfl
  · next noNul =>
    split
    · exact .told rfl
    · next bytes isRead =>
      unfold Config.ofBytes
      split
      · exact .told rfl
      · next characters decoded =>
        have reads : Reads host path (Text.universalNewlines characters) :=
          ⟨by simpa using noNul, bytes, characters, isRead, decoded, rfl⟩
        simp only
        split
        · next failure refused =>
          obtain ⟨cause, rest⟩ := failure
          by_cases deep : cause = .nestedTooDeep
          · subst deep
            exact .misshapen (.nestedTooDeep reads refused)
          · exact .told (if_neg deep)
        · next value parsed => exact fileOutcome_ofJson ⟨_, reads, parsed⟩

/-! ## Sources -/

/-- What is wrong with the environment is told. -/
theorem told_of_environment {host : Host} {fault : SourceFault}
    (unread : Config.ofEnvironment host = .error fault) :
    ∃ message, sourceHalt fault = .failure message := by
  rcases bind_eq_error.mp unread with unread | ⟨_, _, unread⟩
  · obtain ⟨cause, _, rfl⟩ := mapError_eq_error.mp unread
    exact ⟨_, rfl⟩
  · rcases bind_eq_error.mp unread with unread | ⟨_, _, unread⟩
    · exact told_of_durationOfText unread
    · rcases bind_eq_error.mp unread with unread | ⟨_, _, unread⟩
      · exact told_of_durationOfText unread
      · cases unread

/-- A setting that a file overrides is the earlier one, unless the file gives one other than
null. -/
theorem override_getD (usual earlier : Json) (same : usual.equal usual = true ∨ usual = .null)
    (name : String) (members : List (String × Json)) :
    override usual earlier ((Json.member? name members).getD usual) = earlier ∨
      Json.member? name members =
          some (override usual earlier ((Json.member? name members).getD usual)) ∧
        override usual earlier ((Json.member? name members).getD usual) ≠ .null := by
  unfold override
  split
  · exact .inl rfl
  · next counts =>
    rw [Bool.or_eq_true, not_or] at counts
    cases given : Json.member? name members with
    | none =>
        rw [given, Option.getD_none] at counts
        rcases same with same | rfl
        · exact absurd same counts.2
        · exact absurd rfl counts.1
    | some value =>
        rw [given, Option.getD_some] at counts
        refine .inr ⟨rfl, ?_⟩
        rintro rfl
        exact counts.1 rfl

/-- Settings of the environment and of the file: of the right kinds, or as they are in the file. -/
structure Sourced (host : Host) (arguments : Arguments) (config : Config) : Prop where
  javaPath : (config.javaPath = .null ∨ config.javaPath.IsText) ∨
    InFile host arguments "java_path" config.javaPath
  jarPath : config.jarPath.IsText ∨ InFile host arguments "jar_path" config.jarPath
  linterArgs : config.linterArgs.AreTexts ∨ InFile host arguments "linter_args" config.linterArgs
  command : config.command.AreTexts ∨ InFile host arguments "command" config.command
  debounce : config.debounce.IsSeconds
  timeout : config.timeout.IsSeconds
  logLevel : config.logLevel.IsText ∨ InFile host arguments "log_level" config.logLevel

/-- Settings of the right kinds need no file. -/
theorem sourced_of_typed {host : Host} {arguments : Arguments} {config : Config}
    (typed : config.Typed) : Sourced host arguments config :=
  ⟨.inl typed.javaPath, .inl typed.jarPath, .inl typed.linterArgs, .inl typed.command,
    typed.debounce, typed.timeout, .inl typed.logLevel⟩

/-- One of two numbers overrides the other. -/
theorem isSeconds_override {usual earlier later : Json} (isEarlier : earlier.IsSeconds)
    (isLater : later.IsSeconds) : (override usual earlier later).IsSeconds := by
  unfold override
  split
  · exact isEarlier
  · exact isLater

/-- A setting that is right before a file overrides it stays right, or comes from the file. -/
theorem right_override {host : Host} {arguments : Arguments} {path : String}
    {members : List (String × Json)} (named : said arguments.config = some path)
    (holds : HoldsMembers host path members) (right : Json → Prop) {usual earlier : Json}
    (isRight : right earlier) (same : usual.equal usual = true ∨ usual = .null) (name : String) :
    right (override usual earlier ((Json.member? name members).getD usual)) ∨
      InFile host arguments name
        (override usual earlier ((Json.member? name members).getD usual)) := by
  rcases override_getD usual earlier same name members with unchanged | ⟨given, present⟩
  · rw [unchanged]
    exact .inl isRight
  · exact .inr ⟨path, members, named, holds, given, present⟩

/-- Settings of the environment that a file overrides. -/
theorem sourced_merge {host : Host} {arguments : Arguments} {environment : Config}
    (typed : environment.Typed) {path : String} (named : said arguments.config = some path)
    {members : List (String × Json)} (holds : HoldsMembers host path members)
    (debounce timeout : Binary64) : Sourced host arguments
      (environment.merge (givenBy members (.float debounce) (.float timeout))) where
  javaPath := right_override named holds (fun value => value = .null ∨ value.IsText) typed.javaPath
    (.inr rfl) "java_path"
  jarPath := right_override named holds Json.IsText typed.jarPath (.inl rfl) "jar_path"
  linterArgs := right_override named holds Json.AreTexts typed.linterArgs (.inl rfl) "linter_args"
  command := right_override named holds Json.AreTexts typed.command (.inl rfl) "command"
  debounce := isSeconds_override typed.debounce ⟨debounce, rfl⟩
  timeout := isSeconds_override typed.timeout ⟨timeout, rfl⟩
  logLevel := right_override named holds Json.IsText typed.logLevel (.inl rfl) "log_level"

/-- What can come of the environment and the file. -/
inductive SourceOutcome (host : Host) (arguments : Arguments) :
  Except SourceFault Config → Prop where
  | told {fault : SourceFault} {message : String} (told : sourceHalt fault = .failure message) :
      SourceOutcome host arguments (.error fault)
  | misshapen {path : String} {fault : SourceFault} (named : said arguments.config = some path)
      (misshapen : Misshapen host path fault) : SourceOutcome host arguments (.error fault)
  | sourced {config : Config} (sourced : Sourced host arguments config) :
      SourceOutcome host arguments (.ok config)

/-- What can come of the environment and the file, whatever they hold. -/
theorem sourceOutcome (host : Host) (arguments : Arguments) :
    SourceOutcome host arguments (sourcedConfig host arguments) := by
  unfold sourcedConfig
  cases isRead : Config.ofEnvironment host with
  | error fault =>
      obtain ⟨message, told⟩ := told_of_environment isRead
      exact .told told
  | ok environment =>
      have typed := (Config.plain_ofEnvironment isRead).typed
      cases named : said arguments.config with
      | none => exact .sourced (sourced_of_typed typed)
      | some path =>
          have outcome := fileOutcome_ofFile host path
          simp only [bind, Except.bind]
          generalize ofFile host path = result at outcome ⊢
          cases outcome with
          | told told => exact .told told
          | misshapen misshapen => exact .misshapen named misshapen
          | @config members holds debounce timeout =>
              exact .sourced (sourced_merge typed named holds debounce timeout)

/-! ## Arguments -/

/-- What arguments say is right; where they say nothing, a setting stays as it is. -/
theorem right_getD (right elsewhere : Json → Prop) {α : Type} {write : α → Json}
    (writesRight : ∀ item, right (write item)) (given : Option α) {otherwise : Json}
    (sourced : right otherwise ∨ elsewhere otherwise) :
    right ((given.map write).getD otherwise) ∨
      given = none ∧ elsewhere ((given.map write).getD otherwise) := by
  cases given with
  | none =>
      rcases sourced with sourced | sourced
      · exact .inl sourced
      · exact .inr ⟨rfl, sourced⟩
  | some item => exact .inl (writesRight item)

/-- There is no command if the arguments say none. -/
theorem said_of_givenCommand {arguments : Arguments}
    (given : givenCommand arguments = .ok none) : said arguments.command = none := by
  unfold givenCommand at given
  split at given
  · next unsaid => exact unsaid
  · obtain ⟨words, _, impossible⟩ := map_eq_ok.mp (mapError_eq_ok.mp given)
    cases impossible

/-- Settings that have been gathered: of the right kinds, or as they are in the file because the
arguments say nothing, or a time limit that got lost. -/
structure Gathered (host : Host) (arguments : Arguments) (config : Config) : Prop where
  javaPath : (config.javaPath = .null ∨ config.javaPath.IsText) ∨
    said arguments.java = none ∧ InFile host arguments "java_path" config.javaPath
  jarPath : config.jarPath.IsText ∨
    said arguments.jar = none ∧ InFile host arguments "jar_path" config.jarPath
  linterArgs : config.linterArgs.AreTexts ∨ InFile host arguments "linter_args" config.linterArgs
  command : config.command.AreTexts ∨
    said arguments.command = none ∧ InFile host arguments "command" config.command
  debounce : config.debounce.IsSeconds
  timeout : config.timeout.IsSeconds ∨ .timeout ∈ arguments.lost ∧ config.timeout = .list []
  logLevel : config.logLevel.IsText ∨
    said arguments.logLevel = none ∧ InFile host arguments "log_level" config.logLevel

/-- Settings that are gathered for a call are right, or it is known from where they come. -/
theorem gathered_of_config {host : Host} {arguments : Arguments} {config : Config}
    (gathered : CommandLine.config host arguments = .ok config) :
    Gathered host arguments config := by
  obtain ⟨sourced, isSourced, gathered⟩ := bind_eq_ok.mp gathered
  obtain ⟨command, isCommand, gathered⟩ := bind_eq_ok.mp gathered
  have outcome := sourceOutcome host arguments
  rw [isSourced] at outcome
  cases outcome with
  | sourced known =>
    cases gathered
    constructor
    case javaPath =>
      exact right_getD (fun value => value = .null ∨ value.IsText) _
        (fun text => .inr (Json.isText_str text)) (said arguments.java) known.javaPath
    case jarPath =>
      exact right_getD Json.IsText _ Json.isText_str (said arguments.jar) known.jarPath
    case linterArgs => exact known.linterArgs
    case command =>
      rcases right_getD Json.AreTexts _ Json.areTexts_map_str command known.command with
        isRight | ⟨rfl, inFile⟩
      · exact .inl isRight
      · exact .inr ⟨said_of_givenCommand isCommand, inFile⟩
    case debounce => exact known.debounce
    case timeout =>
      simp only [saidTimeout]
      split
      · next lost => exact .inr ⟨by simpa using lost, rfl⟩
      · refine .inl ?_
        cases arguments.timeout with
        | none => exact known.timeout
        | some seconds => exact ⟨seconds, rfl⟩
    case logLevel =>
      exact right_getD Json.IsText _ (fun level => Json.isText_str (Text.upper level))
        (said arguments.logLevel) known.logLevel

/-- What is wrong with the sources is told, unless the file is misshapen. -/
theorem told_or_misshapen {host : Host} {arguments : Arguments} {fault : SourceFault}
    (failed : CommandLine.config host arguments = .error fault) :
    (∃ message, sourceHalt fault = .failure message) ∨
      ∃ path, said arguments.config = some path ∧ Misshapen host path fault := by
  have outcome := sourceOutcome host arguments
  rcases bind_eq_error.mp failed with failed | ⟨sourced, _, failed⟩
  · rw [failed] at outcome
    cases outcome with
    | told told => exact .inl ⟨_, told⟩
    | misshapen named misshapen => exact .inr ⟨_, named, misshapen⟩
  · rcases bind_eq_error.mp failed with failed | ⟨_, _, failed⟩
    · unfold givenCommand at failed
      split at failed
      · cases failed
      · obtain ⟨cause, _, rfl⟩ := mapError_eq_error.mp failed
        exact .inl ⟨_, rfl⟩
    · cases failed

/-! ## Checks -/

/-- Only what is no text has no upper-case form. -/
theorem uppered_eq_error {value : Json} {cause : Json.Misuse}
    (failed : value.uppered = .error cause) : cause = .lacking ∧ ¬ value.IsText := by
  constructor
  · have noText := map_eq_error.mp failed
    unfold Json.textOf at noText
    split at noText
    · cases noText
    · cases noText
    · exact (Except.error.inj noText).symm
  · rw [Json.isText_iff_uppered]
    rintro ⟨upper, succeeds⟩
    cases failed.symm.trans succeeds

/-- A setting cannot be looked at as a path if it is no text, and a file may be in the way. -/
theorem lookAt_eq_error {host : Host} {value : Json} {obstacle : Config.Obstacle}
    (failed : Config.lookAt host value = .error obstacle) :
    (∃ error, obstacle = .file error) ∨ obstacle = .misuse .unsupported ∧ ¬ value.IsText := by
  by_cases isText : value.IsText
  · exact .inl (Launch.lookAt_obstructed isText failed)
  · refine .inr ⟨?_, isText⟩
    unfold Config.lookAt at failed
    split at failed
    · exact absurd (Json.isText_str _) isText
    · cases failed
    · exact (Except.error.inj failed).symm

/-- What can be looked at as a path is a text. -/
theorem isText_of_lookAt {host : Host} {value : Json} {node : Option Host.Node}
    (looked : Config.lookAt host value = .ok node) : value.IsText := by
  unfold Config.lookAt at looked
  split at looked
  · exact Json.isText_str _
  · exact Json.isText_iff.mpr (.inr ⟨_, rfl⟩)
  · cases looked

/-- The jar cannot be looked for if its path is no text, and a file may be in the way. -/
theorem jarComplaints_eq_error {host : Host} {config : Config} {obstacle : Config.Obstacle}
    (failed : Config.jarComplaints host config = .error obstacle) :
    (∃ error, obstacle = .file error) ∨
    obstacle = .misuse .unsupported ∧ ¬ config.jarPath.IsText := by
  unfold Config.jarComplaints at failed
  split at failed
  · cases failed
  · split at failed
    · cases failed
    · rcases bind_eq_error.mp failed with failed | ⟨_, _, failed⟩
      · exact lookAt_eq_error failed
      · cases failed

/-- Without a command the path of the jar is a text, if there is nothing to complain about. -/
theorem isText_of_jarComplaints {host : Host} {config : Config}
    (nothing : Config.jarComplaints host config = .ok []) :
    config.jarPath.IsText ∨ config.command.isPresent = true := by
  unfold Config.jarComplaints at nothing
  split at nothing
  · next present => exact .inr present
  · split at nothing
    · cases nothing
    · obtain ⟨node, looked, _⟩ := bind_eq_ok.mp nothing
      exact .inl (isText_of_lookAt looked)

/-! ## Outcomes -/

/-- What nobody foresees when settings are gathered and checked. All of it comes from the file, but
for a time limit that got lost. -/
inductive Unforeseen (host : Host) (arguments : Arguments) : Escape → Prop where
  | misshapen {path : String} {fault : SourceFault} (named : said arguments.config = some path)
      (misshapen : Misshapen host path fault) : Unforeseen host arguments (.source fault)
  | lostLimit (lost : .timeout ∈ arguments.lost) : Unforeseen host arguments (.misused .unsupported)
  | noLevel {value : Json} (unsaid : said arguments.logLevel = none)
      (inFile : InFile host arguments "log_level" value) (noText : ¬ value.IsText) :
      Unforeseen host arguments (.misused .lacking)
  | noPath {value : Json} (unsaid : said arguments.jar = none)
      (inFile : InFile host arguments "jar_path" value) (noText : ¬ value.IsText) :
      Unforeseen host arguments (.misused .unsupported)

/-- Settings that are accepted. The durations and the level are of the right kinds, and so is the
path of the jar where it matters; the others are, unless the file gives them and the arguments do
not. -/
structure Accepted (host : Host) (arguments : Arguments) (config : Config) : Prop where
  debounce : config.debounce.IsSeconds
  timeout : config.timeout.IsSeconds
  logLevel : config.logLevel.IsText
  javaPath : (config.javaPath = .null ∨ config.javaPath.IsText) ∨
    said arguments.java = none ∧ InFile host arguments "java_path" config.javaPath
  jarPath : config.jarPath.IsText ∨ config.command.isPresent = true ∧
    said arguments.jar = none ∧ InFile host arguments "jar_path" config.jarPath
  linterArgs : config.linterArgs.AreTexts ∨ InFile host arguments "linter_args" config.linterArgs
  command : config.command.AreTexts ∨
    said arguments.command = none ∧ InFile host arguments "command" config.command

variable {host : Host} {arguments : Arguments}

/-- A setting cannot be looked at if a file is in the way, or if its value is not foreseen. -/
theorem unforeseen_of_complaints {config : Config} (gathered : Gathered host arguments config)
    {obstacle : Config.Obstacle} (failed : config.complaints host = .error obstacle) :
    (∃ error, obstacle = .file error) ∨
      ∃ cause, obstacle = .misuse cause ∧ Unforeseen host arguments (.misused cause) := by
  obtain ⟨seconds, isDebounce⟩ := gathered.debounce
  rcases bind_eq_error.mp failed with failed | ⟨_, _, failed⟩
  · rw [isDebounce] at failed
    cases failed
  rcases bind_eq_error.mp failed with failed | ⟨_, _, failed⟩
  · rcases gathered.timeout with ⟨seconds, isTimeout⟩ | ⟨lost, isTimeout⟩
    · rw [isTimeout] at failed
      cases failed
    · rw [isTimeout] at failed
      cases failed
      exact .inr ⟨_, rfl, .lostLimit lost⟩
  rcases bind_eq_error.mp failed with failed | ⟨_, _, failed⟩
  · obtain ⟨cause, unread, rfl⟩ := mapError_eq_error.mp failed
    obtain ⟨rfl, noText⟩ := uppered_eq_error unread
    rcases gathered.logLevel with isText | ⟨unsaid, inFile⟩
    · exact absurd isText noText
    · exact .inr ⟨_, rfl, .noLevel unsaid inFile noText⟩
  rcases bind_eq_error.mp failed with failed | ⟨_, _, failed⟩
  · rcases jarComplaints_eq_error failed with inTheWay | ⟨rfl, noText⟩
    · exact .inl inTheWay
    · rcases gathered.jarPath with isText | ⟨unsaid, inFile⟩
      · exact absurd isText noText
      · exact .inr ⟨_, rfl, .noPath unsaid inFile noText⟩
  · cases failed

/-- Settings that nothing can be complained about. -/
theorem accepted_of_valid {config : Config} (gathered : Gathered host arguments config)
    (valid : config.complaints host = .ok []) : Accepted host arguments config := by
  obtain ⟨-, notBelow, ⟨name, level, named, -⟩, isJar⟩ := Config.complaints_eq_nil_iff.mp valid
  constructor
  case debounce => exact gathered.debounce
  case timeout =>
    rcases gathered.timeout with isTimeout | ⟨_, isTimeout⟩
    · exact isTimeout
    · rw [isTimeout] at notBelow
      cases notBelow
  case logLevel => exact Json.isText_iff_uppered.mpr ⟨name, named⟩
  case javaPath => exact gathered.javaPath
  case jarPath =>
    rcases gathered.jarPath with isText | inFile
    · exact .inl isText
    · rcases isText_of_jarComplaints isJar with isText | present
      · exact .inl isText
      · exact .inr ⟨present, inFile⟩
  case linterArgs => exact gathered.linterArgs
  case command => exact gathered.command

/-- What is not foreseen comes from the file or from a time limit that got lost. -/
theorem unforeseen_of_settings {cause : Escape}
    (escaped : settings host arguments = .error (.escape cause)) :
    Unforeseen host arguments cause := by
  rcases bind_eq_error.mp escaped with failed | ⟨config, gathered, escaped⟩
  · obtain ⟨fault, failed, escapes⟩ := mapError_eq_error.mp failed
    rcases told_or_misshapen failed with ⟨message, told⟩ | ⟨path, named, misshapen⟩
    · rw [told] at escapes
      cases escapes
    · cases misshapen with
      | nestedTooDeep reads refused =>
          cases escapes
          exact .misshapen named (.nestedTooDeep reads refused)
      | noObject holds noObject =>
          cases escapes
          exact .misshapen named (.noObject holds noObject)
      | noDuration holds isDuration given noText noNumber =>
          cases escapes
          exact .misshapen named (.noDuration holds isDuration given noText noNumber)
  · rcases bind_eq_error.mp escaped with failed | ⟨complaints, _, escaped⟩
    · obtain ⟨obstacle, failed, escapes⟩ := mapError_eq_error.mp failed
      have known := gathered_of_config (mapError_eq_ok.mp gathered)
      rcases unforeseen_of_complaints known failed with ⟨error, rfl⟩ | ⟨cause, rfl, unforeseen⟩
      · cases escapes
      · cases escapes
        exact unforeseen
    · split at escaped <;> cases escaped

/-- Settings that a call accepts are right where they matter. -/
theorem accepted_of_settings {config : Config} (accepted : settings host arguments = .ok config) :
    Accepted host arguments config := by
  obtain ⟨gathered, valid⟩ := settings_eq_ok_iff.mp accepted
  exact accepted_of_valid (gathered_of_config gathered) valid

/-- A file, if the arguments name one, in which every value is of the kind of its setting. Null is
as good as nothing, and a text may spell a duration. -/
structure SoundFile (host : Host) (arguments : Arguments) : Prop where
  shaped : ∀ path fault, said arguments.config = some path → ¬ Misshapen host path fault
  javaPath : ∀ value, InFile host arguments "java_path" value → value.IsText
  jarPath : ∀ value, InFile host arguments "jar_path" value → value.IsText
  linterArgs : ∀ value, InFile host arguments "linter_args" value → value.AreTexts
  command : ∀ value, InFile host arguments "command" value → value.AreTexts
  logLevel : ∀ value, InFile host arguments "log_level" value → value.IsText

/-- No file is a sound one. -/
theorem soundFile_of_noFile (noFile : said arguments.config = none) : SoundFile host arguments := by
  have nothing : ∀ {name value}, ¬ InFile host arguments name value := by
    rintro name value ⟨path, members, named, -⟩
    rw [noFile] at named
    cases named
  constructor
  case shaped =>
    intro path fault named
    rw [noFile] at named
    cases named
  all_goals exact fun value inFile => absurd inFile nothing

/-- With a sound file, settings that are accepted are of the right kinds. -/
theorem Accepted.typed {config : Config} (accepted : Accepted host arguments config)
    (sound : SoundFile host arguments) : config.Typed where
  javaPath := accepted.javaPath.elim id fun inFile => .inr (sound.javaPath _ inFile.2)
  jarPath := accepted.jarPath.elim id fun inFile => sound.jarPath _ inFile.2.2
  linterArgs := accepted.linterArgs.elim id fun inFile => sound.linterArgs _ inFile
  command := accepted.command.elim id fun inFile => sound.command _ inFile.2
  timeout := accepted.timeout
  debounce := accepted.debounce
  logLevel := accepted.logLevel

/-- Whatever the host, the file and the arguments are, the settings of a call are told to be
wrong, are accepted, or are not foreseen. What is not foreseen comes from the file, which is
misshapen or gives something else than a text for the level or the path of the jar, or from a
time limit that got lost. What is accepted has numbers for its durations and a text for its
level; the other settings are of the right kinds unless the file gives them and the arguments do
not. So without a file, and with one in which every value is of its kind, settings are told to be
wrong or have the right kinds. -/
theorem settings_outcomes (host : Host) (arguments : Arguments) :
    (∀ cause, settings host arguments = .error (.escape cause) → Unforeseen host arguments cause) ∧
    (∀ config, settings host arguments = .ok config → Accepted host arguments config) ∧
    ((said arguments.config = none ∨ SoundFile host arguments) → .timeout ∉ arguments.lost →
      (∃ message, settings host arguments = .error (.failure message)) ∨
        ∃ config, settings host arguments = .ok config ∧ config.Typed) := by
  refine ⟨fun _ => unforeseen_of_settings, fun _ => accepted_of_settings, fun fileOrNone kept => ?_⟩
  have sound : SoundFile host arguments := fileOrNone.elim soundFile_of_noFile id
  cases outcome : settings host arguments with
  | ok config => exact .inr ⟨config, rfl, (accepted_of_settings outcome).typed sound⟩
  | error halt =>
      cases halt with
      | failure message => exact .inl ⟨message, rfl⟩
      | escape cause =>
          cases unforeseen_of_settings outcome with
          | misshapen named misshapen => exact absurd misshapen (sound.shaped _ _ named)
          | lostLimit lost => exact absurd lost kept
          | noLevel _ inFile noText => exact absurd (sound.logLevel _ inFile) noText
          | noPath _ inFile noText => exact absurd (sound.jarPath _ inFile) noText

/-! ## Two files -/

section Files

/-- A fresh host with a file of settings. -/
def hostWithSettings (text : String) : Host :=
  (Host.fresh []).place "c.json" (.file (Text.Utf8.encode text.toList) (.usual false))

/-- A call that names the file. -/
def withSettings : Arguments := { Arguments.none with files := ["a.sqf"], config := some "c.json" }

/-- The settings in the file of the host are those of the value in it. -/
theorem ofFile_hostWithSettings {text : String} {value : Json}
    (decoded : Text.Utf8.decodeStrict (Text.Utf8.encode text.toList) = .ok text.toList)
    (oneLine : Text.universalNewlines text.toList = text.toList)
    (parsed : Json.Document.document text.toList = .ok value) :
    ofFile (hostWithSettings text) "c.json" = ofJson value := by
  have isRead : (hostWithSettings text).read "c.json" = .ok (Text.Utf8.encode text.toList) := rfl
  have noNul : Host.holdsNul "c.json" = false := by decide +kernel
  simp only [ofFile, noNul, isRead, Config.ofBytes, decoded, oneLine, parsed, Bool.false_eq_true,
    ↓reduceIte]

/-- A file with a command and with a number where arguments are expected. -/
def wrongArgs : String := "\x7b\"command\": [\"cat\"], \"linter_args\": 5\x7d"

/-- The members of the object in it. -/
def wrongMembers : List (String × Json) :=
  [("command", .list [.str "cat"]), ("linter_args", .int 5)]

/-- Whether the arguments of the linter are a number. -/
def hasNumberForArgs (config : Config) : Bool :=
  match config.linterArgs with
  | .int 5 => true
  | _ => false

/-- The settings are accepted, with the number for the arguments of the linter. -/
theorem exists_hasNumberForArgs : ∃ config,
    settings (hostWithSettings wrongArgs) withSettings = .ok config ∧
      config.linterArgs = .int 5 := by
  have parsed : Json.Document.document wrongArgs.toList = .ok (.object wrongMembers) := by cbv
  have read := ofFile_hostWithSettings (by cbv) (by cbv) parsed
  have named : said withSettings.config = some "c.json" := rfl
  have number : (settings (hostWithSettings wrongArgs) withSettings).toOption.any hasNumberForArgs =
      true := by
    unfold settings CommandLine.config sourcedConfig
    simp only [named, read]
    decide +kernel
  obtain ⟨config, accepted, known⟩ := exists_of_any_toOption number
  unfold hasNumberForArgs at known
  split at known
  · next isNumber => exact ⟨config, accepted, isNumber⟩
  · cases known

/-- The number is accepted, and it is the file that it comes from. -/
theorem settings_outcomes_wrongArgs : ∃ config,
    settings (hostWithSettings wrongArgs) withSettings = .ok config ∧ ¬ config.linterArgs.AreTexts ∧
      InFile (hostWithSettings wrongArgs) withSettings "linter_args" config.linterArgs := by
  obtain ⟨config, accepted, number⟩ := exists_hasNumberForArgs
  have known := (settings_outcomes (hostWithSettings wrongArgs) withSettings).2.1 config accepted
  have noTexts : ¬ config.linterArgs.AreTexts := by
    rw [number]
    rintro ⟨texts, areTexts⟩
    cases areTexts
  exact ⟨config, accepted, noTexts, known.linterArgs.resolve_left noTexts⟩

/-- Whether settings come to something that nobody handles. -/
def escapes (outcome : Except Halt Config) : Bool :=
  match outcome with
  | .error (.escape _) => true
  | _ => false

/-- So it is not so that all settings are told to be wrong or have the right kinds: a file with an
empty list is no object. -/
theorem not_every_file_is_foreseen : ¬ ∀ (host : Host) (arguments : Arguments),
    (∃ message, settings host arguments = .error (.failure message)) ∨
      ∃ config, settings host arguments = .ok config ∧ config.Typed := by
  intro always
  have parsed : Json.Document.document "[]".toList = .ok (.list []) := by cbv
  have read := ofFile_hostWithSettings (by cbv) (by cbv) parsed
  have named : said withSettings.config = some "c.json" := rfl
  have unforeseen : escapes (settings (hostWithSettings "[]") withSettings) = true := by
    unfold settings CommandLine.config sourcedConfig
    simp only [named, read]
    decide +kernel
  rcases always (hostWithSettings "[]") withSettings with ⟨message, told⟩ | ⟨config, accepted, -⟩
  · rw [told] at unforeseen
    cases unforeseen
  · rw [accepted] at unforeseen
    cases unforeseen

end Files

end CommandLine

end LintClient
