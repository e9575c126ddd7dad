import LintClient.Proofs.CommandLine.Kinds
import LintClient.Proofs.Log.Setup
import Mathlib.Data.List.TakeWhile

/-!
# Escapes

What ends a program though nobody handles it, and from where it comes. Everything else ends it with
a status, and with that of errors only if there is an error in a report (`lint_status_or_escape`).
Since an escape ends a process with that same status, it looks like errors in the reports.
-/

namespace LintClient

open Text (Source)

/-! ## Texts with halves of surrogate pairs -/

namespace Text.Source

/-- A text that is made of characters can be delivered. -/
theorem encode_ofText (text : List Char) : ∃ bytes, (ofText text).encode = .ok bytes := by
  have clean : (ofText text).dropWhile (!isStray ·) = [] := by
    rw [List.dropWhile_eq_nil_iff]
    intro unit among
    obtain ⟨c, _, rfl⟩ := List.mem_map.mp among
    rfl
  have none : (ofText text).strayRun? = none := by simp only [strayRun?, runFrom?, clean]
  rw [encode, none]
  exact ⟨_, rfl⟩

/-- Nothing on standard input can be delivered. -/
theorem encode_ofInput_nil : ∃ bytes, (ofInput []).encode = .ok bytes := encode_ofText []

/-- Texts that are made of characters make up such a text. -/
theorem characters?_append {left right : Source} {first second : List Char}
    (isFirst : left.characters? = some first) (isSecond : right.characters? = some second) :
    (left ++ right).characters? = some (first ++ second) := by
  rw [characters?_eq_some_iff] at isFirst isSecond ⊢
  rw [isFirst, isSecond, ofText, ofText, ofText, List.map_append]

/-- Words that are made of characters are so once they are joined. -/
theorem exists_characters_joined {words : List Source}
    (plain : ∀ word ∈ words, ∃ text, word.characters? = some text) :
    ∃ text, (joined words).characters? = some text := by
  induction words with
  | nil => exact ⟨[], rfl⟩
  | cons word words inductionHypothesis =>
      obtain ⟨⟨first, isFirst⟩, arePlain⟩ := List.forall_mem_cons.mp plain
      cases words with
      | nil => exact ⟨first, by simpa [joined, List.intercalate] using isFirst⟩
      | cons next others =>
          obtain ⟨rest, isRest⟩ := inductionHypothesis arePlain
          have goesOn : joined (word :: next :: others) =
              word ++ (.char ' ' :: joined (next :: others)) := by
            simp [joined, List.intercalate]
          have behind :
              characters? (.char ' ' :: joined (next :: others)) = some (' ' :: rest) := by
            rw [characters?, isRest, Option.map_some]
          rw [goesOn]
          exact ⟨_, characters?_append isFirst behind⟩

/-- If words are not made of characters once they are joined, one of them is not. -/
theorem exists_stray_of_joined {words : List Source} (stray : (joined words).characters? = none) :
    ∃ word ∈ words, word.characters? = none := by
  by_contra clean
  obtain ⟨text, isText⟩ := exists_characters_joined fun word there =>
    Option.ne_none_iff_exists'.mp fun notPlain => clean ⟨word, there, notPlain⟩
  cases stray.symm.trans isText

end Text.Source

namespace CommandLine

/-- What nobody handles in a call with accepted settings, and from where it comes. -/
inductive Uncaught (arguments : Arguments) (config : Config) (desk : Desk) : Escape → Prop where
  /-- Logging cannot be set up in the directory that is said. -/
  | setup {fault : Log.SetupFault} (asked : said arguments.logDir ≠ none)
      (ofDirectory : fault.OfDirectory) : Uncaught arguments config desk (.setup fault)
  /-- The configuration file gives a command with halves of surrogate pairs, which cannot be written
  into the log. -/
  | unwritable {run : Source.StrayRun} {items : List Json} (asked : said arguments.logDir ≠ none)
      (fromFile : said arguments.config ≠ none) (isCommand : config.command.elements = .ok items)
      (stray : ∃ item ∈ items, item.isStray = true) :
      Uncaught arguments config desk (.setup (.header (.unwritable run)))
  | path {path : String} (asked : path ∈ arguments.files) (nul : Host.holdsNul path = true) :
      Uncaught arguments config desk .path
  /-- Standard input is linted, and is not UTF-8. -/
  | undeliverable {run : Source.StrayRun} (asked : "-" ∈ arguments.files)
      (unwritable : (Source.ofInput desk.input).encode = .error run) :
      Uncaught arguments config desk (.undeliverable run)
  /-- The configuration file gives a setting a value of a wrong kind. -/
  | misused {cause : Json.Misuse} (asked : said arguments.config ≠ none)
      (illKinded : ¬ config.WellKinded) : Uncaught arguments config desk (.misused cause)
  | endless : Uncaught arguments config desk .endless

section

variable {arguments : Arguments} {config : Config} {desk : Desk}

/-- Accepted settings of wrong kinds come from the configuration file. -/
theorem uncaught_misused (accepted : settings desk.session.host arguments = .ok config)
    {cause : Json.Misuse} (illKinded : ¬ config.WellKinded) :
    Uncaught arguments config desk (.misused cause) :=
  .misused (fun noFile => illKinded (plain_of_noFile accepted noFile).wellKinded) illKinded

/-! ## Logging -/

/-- A word with halves of surrogate pairs is an item with them. -/
theorem exists_stray_item {items : List Json} {words : List Source}
    (areWords : Run.wordsOf items = .ok words)
    (stray : (Source.joined words).characters? = none) : ∃ item ∈ items, item.isStray = true := by
  obtain ⟨word, there, notPlain⟩ := Source.exists_stray_of_joined stray
  obtain ⟨item, among, isWord⟩ := exists_of_mem_mapM areWords there
  refine ⟨item, among, ?_⟩
  cases item with
  | stray text => rfl
  | str text =>
      obtain rfl := Except.ok.inj isWord
      cases notPlain.symm.trans (Source.characters?_ofText _)
  | _ => cases isWord

/-- The facts about a call are its files and its command, which have texts. The text of the command
has halves of surrogate pairs only if an item of the command has some. -/
theorem callMetadata_eq_ok {metadata : Log.Metadata}
    (gathered : callMetadata arguments config = .ok metadata) :
    ∃ files command, metadata = [("Files", .str files), ("Command", command)] ∧
      command.isWritable = true ∧ (command.isStray = true → ∃ items,
        config.command.elements = .ok items ∧ ∃ item ∈ items, item.isStray = true) := by
  obtain ⟨items, areItems, gathered⟩ := bind_eq_ok.mp gathered
  obtain ⟨words, areWords, gathered⟩ := bind_eq_ok.mp gathered
  cases gathered
  refine ⟨_, _, rfl, ?writable, ?stray⟩
  case writable => split <;> simp [Json.isWritable]
  case stray =>
    split
    · nofun
    · rw [Json.isStray_ofSource, Option.isNone_iff_eq_none]
      exact fun stray => ⟨items, areItems, exists_stray_item areWords stray⟩

/-- The facts about a call can be gathered if the settings are of the right kinds. -/
theorem callMetadata_of_wellKinded (kinds : config.WellKinded) :
    ∃ metadata, callMetadata arguments config = .ok metadata := by
  obtain ⟨words, areWords⟩ := kinds.command
  rw [callMetadata, areWords]
  simp only [Json.elements, bind, Except.bind, Run.wordsOf_map_ofSource]
  exact ⟨_, rfl⟩

/-- A command with halves of surrogate pairs comes from the configuration file. -/
theorem fromFile_of_stray (accepted : settings desk.session.host arguments = .ok config)
    {items : List Json} (isCommand : config.command.elements = .ok items)
    (stray : ∃ item ∈ items, item.isStray = true) : said arguments.config ≠ none := by
  intro noFile
  obtain ⟨words, areWords⟩ := (plain_of_noFile accepted noFile).command
  rw [areWords] at isCommand
  cases isCommand
  obtain ⟨item, there, isStray⟩ := stray
  obtain ⟨word, -, rfl⟩ := List.mem_map.mp there
  cases isStray

/-- A setup of logging that fails is not handled, and ends the process with the status of errors. -/
theorem setUp_escapes (accepted : settings desk.session.host arguments = .ok config) {halt : Halt}
    (failed : (setUp arguments config desk).2 = .error halt) :
    ∃ cause, halt = .escape cause ∧ (Exit.escape cause).code? = some 1 ∧
      Uncaught arguments config desk cause := by
  cases asked : said arguments.logDir with
  | none =>
      rw [setUp_without_directory accepted asked] at failed
      cases failed
  | some directory =>
      obtain ⟨name, level, named, isLevel⟩ :=
        Config.level_of_valid (settings_eq_ok_iff.mp accepted).2
      have ranked : Log.rankOf (.str name) = .ok level.rank := by rw [Log.rankOf, isLevel]
      cases gathered : callMetadata arguments config with
      | error cause =>
          simp only [setUp, named, asked, gathered] at failed
          cases failed
          refine ⟨_, rfl, rfl, uncaught_misused accepted fun kinds => ?_⟩
          obtain ⟨metadata, isMetadata⟩ := @callMetadata_of_wellKinded arguments _ kinds
          cases gathered.symm.trans isMetadata
      | ok metadata =>
          simp only [setUp, named, asked, gathered] at failed
          obtain ⟨fault, listened, rfl⟩ := mapError_eq_error.mp failed
          obtain ⟨files, command, rfl, isWritable, ofItems⟩ := callMetadata_eq_ok gathered
          have isAsked : said arguments.logDir ≠ none := by simp [asked]
          refine ⟨_, rfl, rfl, ?_⟩
          cases (Log.failsOnly_listenInDirectory directory files isWritable ranked).discard _ _
            listened with
          | directory ofDirectory => exact .setup isAsked ofDirectory
          | command run isStray =>
              obtain ⟨items, isCommand, stray⟩ := ofItems isStray
              exact .unwritable isAsked (fromFile_of_stray accepted isCommand stray) isCommand stray

/-! ## Attempts -/

/-- What nobody handles about a run. -/
theorem escape_of_ends {label : String} {source : Source} {ending : Run.Ending} {sound : Prop}
    (ends : Run.Ends (.usual label) source sound ending) {cause : Escape}
    (escaped : reportOf ending = .error (.escape cause)) :
    (∃ run, source.encode = .error run ∧ cause = .undeliverable run) ∨
      (∃ misuse, ¬ sound ∧ cause = .misused misuse) ∨ cause = .endless := by
  cases ends with
  | report report => cases escaped
  | failed failure => cases escaped
  | undeliverable unwritable =>
      cases escaped
      exact .inl ⟨_, unwritable, rfl⟩
  | obstructed error => cases escaped
  | misused misuse unsound =>
      cases escaped
      exact .inr (.inl ⟨misuse, unsound, rfl⟩)
  | cancelled requested => cases requested
  | endless =>
      cases escaped
      exact .inr (.inr rfl)

variable {launch : Launch.Launcher} {label : String} {ready : Desk} {attempts : List Attempt}

/-- What nobody handles about an attempt. -/
theorem uncaught_of_attempt (accepted : settings desk.session.host arguments = .ok config)
    (inTurn : InTurn (linterOf launch label config) 0 ready arguments.files attempts)
    (sameInput : ready.input = desk.input) {attempt : Attempt} (among : attempt ∈ attempts)
    {cause : Escape} (escaped : attempt.outcome = .error (.escape cause)) :
    Uncaught arguments config desk cause := by
  obtain ⟨asked, course⟩ := inTurn.course among
  cases course with
  | noPath _ nul isPath =>
      cases escaped.symm.trans isPath
      exact .path asked nul
  | unread told => cases escaped.symm.trans told
  | @ran source left number host read ended =>
      rcases escape_of_ends (Run.ends_run (.usual label) source launch host config)
        (ended.symm.trans escaped) with ⟨run, unwritable, rfl⟩ | ⟨misuse, illKinded, rfl⟩ | rfl
      · rcases readSource_eq_ok read with ⟨isInput, rfl, -⟩ | ⟨-, ⟨bytes, rfl⟩, -⟩
        · rcases inTurn.input_before _ among with same | nothing
          · rw [same, sameInput] at unwritable
            exact .undeliverable (isInput ▸ asked) unwritable
          · rw [nothing] at unwritable
            obtain ⟨bytes, written⟩ := Source.encode_ofInput_nil
            cases unwritable.symm.trans written
        · obtain ⟨bytes, written⟩ := Source.encode_ofText _
          cases unwritable.symm.trans written
      · exact uncaught_misused accepted illKinded
      · exact .endless

/-! ## Calls -/

/-- A status is that of errors only if there is an error in a report. -/
theorem status_of_lint (accepted : settings desk.session.host arguments = .ok config) {code : Nat}
    (isStatus : (lint (linterOf launch label) arguments desk).2 = .status code) :
    code = 0 ∨ code = 2 ∨ code = 1 ∧ ∃ ready attempts,
      setUp arguments config desk = (ready, .ok ()) ∧
      InTurn (linterOf launch label config) 0 ready arguments.files attempts ∧
      ∃ attempt ∈ attempts, ∃ report, attempt.outcome = .ok report ∧ report.errors ≠ [] := by
  have decided := @decides_lint (linterOf launch label) arguments desk config accepted
  generalize (lint (linterOf launch label) arguments desk).2 = exit at decided isStatus
  cases decided with
  | setUp failed =>
      obtain ⟨cause, rfl, _, _⟩ := setUp_escapes accepted failed
      cases isStatus
  | @attempt _ _ _ halt _ _ _ _ =>
      cases halt with
      | failure message =>
          cases isStatus
          exact .inr (.inl rfl)
      | escape cause => cases isStatus
  | @reports ready attempts results logs inTurn reports =>
      cases isStatus
      rw [exitStatus_eq]
      split
      · next someError =>
        obtain ⟨result, among, isError⟩ := someError
        obtain ⟨attempt, attempted, isReport⟩ := Attempt.exists_of_mem_reports reports among
        exact .inr
          (.inr ⟨rfl, ready, attempts, logs, inTurn, attempt, attempted, _, isReport, isError⟩)
      · exact .inl rfl

/-- An escape comes from the setup of logging or from an attempt. -/
theorem uncaught_of_lint (accepted : settings desk.session.host arguments = .ok config)
    {cause : Escape} (escaped : (lint (linterOf launch label) arguments desk).2 = .escape cause) :
    Uncaught arguments config desk cause := by
  have decided := @decides_lint (linterOf launch label) arguments desk config accepted
  generalize (lint (linterOf launch label) arguments desk).2 = exit at decided escaped
  cases decided with
  | setUp failed =>
      obtain ⟨cause, rfl, _, uncaught⟩ := setUp_escapes accepted failed
      cases escaped
      exact uncaught
  | @attempt ready _ _ halt logs inTurn among failed =>
      cases halt with
      | failure message => cases escaped
      | escape cause =>
          cases escaped
          exact uncaught_of_attempt accepted inTurn (setUp_keeps logs).2 among failed
  | reports _ _ _ => cases escaped

/-- A setup of logging that fails ends a call by an escape. -/
theorem escape_of_setUp_failed (accepted : settings desk.session.host arguments = .ok config)
    {halt : Halt} (failed : (setUp arguments config desk).2 = .error halt) :
    ∃ cause, (lint (linterOf launch label) arguments desk).2 = .escape cause ∧
      (lint (linterOf launch label) arguments desk).2.code? = some 1 := by
  obtain ⟨cause, rfl, code, _⟩ := setUp_escapes accepted failed
  rw [lint_of_setUp_error accepted (Prod.ext rfl failed), exit_halt]
  exact ⟨cause, rfl, code⟩

end

/-- However commands are started, a call with accepted settings has a status, or ends by something
that nobody handles and of which it is known from where it comes. The status is that of errors only
if there is an error in a report. A failure that is told about has the status of failures, but a
setup of logging that fails is not handled, and neither is an attempt that escapes: the process then
ends with the status of errors, if it ends. -/
theorem lint_status_or_escape (launch : Launch.Launcher) (label : String) (arguments : Arguments)
    (desk : Desk) (config : Config) (accepted : settings desk.session.host arguments = .ok config) :
    (∀ code, (lint (linterOf launch label) arguments desk).2 = .status code →
      code = 0 ∨ code = 2 ∨ code = 1 ∧ ∃ ready attempts,
        setUp arguments config desk = (ready, .ok ()) ∧
        InTurn (linterOf launch label config) 0 ready arguments.files attempts ∧
        ∃ attempt ∈ attempts, ∃ report, attempt.outcome = .ok report ∧ report.errors ≠ []) ∧
    (∀ cause, (lint (linterOf launch label) arguments desk).2 = .escape cause →
      Uncaught arguments config desk cause) ∧
    (∀ halt, (setUp arguments config desk).2 = .error halt →
      ∃ cause, (lint (linterOf launch label) arguments desk).2 = .escape cause ∧
        (lint (linterOf launch label) arguments desk).2.code? = some 1) ∧
    ∀ ready attempts, setUp arguments config desk = (ready, .ok ()) →
      InTurn (linterOf launch label config) 0 ready arguments.files attempts → ∀ failing ∈ attempts,
        (∀ message, failing.outcome = .error (.failure message) →
          (lint (linterOf launch label) arguments desk).2 = .status 2) ∧
        ∀ cause, failing.outcome = .error (.escape cause) →
          (lint (linterOf launch label) arguments desk).2 = .escape cause := by
  refine ⟨fun code isStatus => status_of_lint accepted isStatus,
    fun cause escaped => uncaught_of_lint accepted escaped,
    fun halt failed => escape_of_setUp_failed accepted failed, ?_⟩
  intro ready attempts logs inTurn failing among
  have exits : ∀ halt, failing.outcome = .error halt →
      (lint (linterOf launch label) arguments desk).2 = halt.exit := by
    intro halt failed
    rw [lint_of_stopped accepted logs inTurn among failed, exit_halt]
  exact ⟨fun message => exits (.failure message), fun cause => exits (.escape cause)⟩

/-- The status that a call has, if it has one. -/
def Exit.status? : Exit → Option Nat
  | .status code => some code
  | .escape _ => none

/-- Standard input, for the program `cat`. -/
def inputAlone : Arguments :=
  { Arguments.none with files := ["-"], command := some "cat" }

/-- A desk with a byte on standard input that is no part of a character. -/
def strayDesk : Desk := { freshDesk with input := [0xFF] }

/-- A stray byte on standard input is not handled, and it is the stray byte to which that is due. -/
theorem lint_strayDesk : ∃ config run,
    settings strayDesk.session.host inputAlone = .ok config ∧
      (lint (linterOf Launch.start "1") inputAlone strayDesk).2 = .escape (.undeliverable run) := by
  obtain ⟨config, accepted⟩ : ∃ config, settings strayDesk.session.host inputAlone = .ok config :=
    exists_of_isOk (by decide +kernel)
  have uncaught := (lint_status_or_escape Launch.start "1" inputAlone strayDesk config accepted).2.1
  have noStatus :
      (lint (linterOf Launch.start "1") inputAlone strayDesk).2.status? = none := by decide +kernel
  have ends :
      (lint (linterOf Launch.start "1") inputAlone strayDesk).2.code? = some 1 := by decide +kernel
  cases exits : (lint (linterOf Launch.start "1") inputAlone strayDesk).2 with
  | status code =>
      rw [exits] at noStatus
      cases noStatus
  | escape cause =>
      cases uncaught cause exits with
      | setup asked _ => exact absurd rfl asked
      | unwritable asked _ _ _ => exact absurd rfl asked
      | path asked nul =>
          obtain rfl := List.mem_singleton.mp asked
          exact absurd nul (by decide)
      | @undeliverable run _ _ => exact ⟨config, run, accepted, rfl⟩
      | misused asked _ => exact absurd rfl asked
      | endless =>
          rw [exits] at ends
          cases ends

/-- Standard input with logs in a directory. -/
def inputWithLogs : Arguments := { inputAlone with logDir := some "logs" }

/-- A desk with a file where the logs should go. -/
def fileAtLogsDesk : Desk :=
  { freshDesk with
    session := .start ((Host.fresh []).place "logs" (.file [] (.usual false)))
      freshDesk.session.now }

/-- So it is not so that every call with accepted settings has a status. -/
theorem not_every_call_has_status : ¬ ∀ (arguments : Arguments) (desk : Desk) (config : Config),
    settings desk.session.host arguments = .ok config →
      ∃ code, (lint (linterOf Launch.start "1") arguments desk).2 = .status code := by
  intro always
  obtain ⟨config, accepted⟩ :
      ∃ config, settings fileAtLogsDesk.session.host inputWithLogs = .ok config :=
    exists_of_isOk (by decide +kernel)
  obtain ⟨code, isStatus⟩ := always inputWithLogs fileAtLogsDesk config accepted
  have noStatus :
      (lint (linterOf Launch.start "1") inputWithLogs fileAtLogsDesk).2.status? = none := by
    decide +kernel
  rw [isStatus] at noStatus
  cases noStatus

end CommandLine

end LintClient
