import LintClient.Proofs.CommandLine.Attempts
import LintClient.Proofs.Config.Validation

/-!
# The exit status

What a program prints and with which status it ends, given what comes of its attempts. All depends
on all of them: a failure takes back the reports that are there already, and one error anywhere
decides the status (`lint_all_or_nothing`).
-/

namespace LintClient

namespace CommandLine

/-- Settings are accepted if they can be gathered and there is nothing to complain about. -/
theorem settings_eq_ok_iff {host : Host} {arguments : Arguments} {config : Config} :
    settings host arguments = .ok config ↔
      CommandLine.config host arguments = .ok config ∧ config.complaints host = .ok [] := by
  simp only [settings, bind_eq_ok, mapError_eq_ok]
  constructor
  · rintro ⟨gathered, isGathered, complaints, complained, accepted⟩
    split at accepted
    · next nothing =>
      cases accepted
      exact ⟨isGathered, complained.trans (congrArg _ (List.isEmpty_iff.mp nothing))⟩
    · cases accepted
  · rintro ⟨gathered, valid⟩
    exact ⟨config, gathered, [], valid, rfl⟩

section

variable {arguments : Arguments} {config : Config} {desk : Desk}

/-- Logging is set up by the session alone. -/
theorem setUp_keeps {ready : Desk} {outcome : Except Halt Unit}
    (isSetUp : setUp arguments config desk = (ready, outcome)) :
    ready.output = desk.output ∧ ready.input = desk.input := by
  unfold setUp at isSetUp
  split at isSetUp
  · cases isSetUp
    exact ⟨rfl, rfl⟩
  · simp only at isSetUp
    split at isSetUp
    · cases isSetUp
      exact ⟨rfl, rfl⟩
    · split at isSetUp <;> cases isSetUp <;> exact ⟨rfl, rfl⟩

/-- Logging to the error stream alone is always set up. -/
theorem setUp_without_directory (accepted : settings desk.session.host arguments = .ok config)
    (noDirectory : said arguments.logDir = none) : (setUp arguments config desk).2 = .ok () := by
  obtain ⟨name, level, named, isLevel⟩ := Config.level_of_valid (settings_eq_ok_iff.mp accepted).2
  have ranked : Log.rankOf (.str name) = .ok level.rank := by rw [Log.rankOf, isLevel]
  simp only [setUp, named, noDirectory, Log.listenOnConsole, Log.rankAsked, ranked]
  rfl

end

/-! ## Results -/

/-- The status for reports tells whether one of them has an error. -/
theorem exitStatus_eq (results : List Result) :
    exitStatus results = if ∃ result ∈ results, result.2.errors ≠ [] then 1 else 0 := by
  have anyError : hasErrors results = true ↔ ∃ result ∈ results, result.2.errors ≠ [] := by
    simp [hasErrors]
  simp only [exitStatus, anyError]

/-- Reports are printed path by path: errors first, then warnings, and then variables on request. -/
theorem printed_text (showVariables : Bool) (results : List Result) :
    printed false showVariables results =
      String.join (results.flatMap fun (path, report) =>
        (report.errors.map (Diagnostic.line path .error) ++
          report.warnings.map (Diagnostic.line path .warning) ++
          if showVariables then report.symbols.map (Variable.line path) else []).map endLine) := by
  rw [printed, if_neg Bool.false_ne_true, textLines, List.map_flatMap]
  rfl

/-! ## Exits -/

/-- The exit that something which ends a program comes to. -/
def Halt.exit : Halt → Exit
  | .failure _ => .status failureStatus
  | .escape cause => .escape cause

/-- A halted program ends as its halt asks for. -/
theorem exit_halt (desk : Desk) (halt : Halt) : (desk.halt halt).2 = halt.exit := by
  cases halt <;> rfl

section

variable {linterOf : Config → Linter} {arguments : Arguments} {desk ready : Desk} {config : Config}
  {attempts : List Attempt} (accepted : settings desk.session.host arguments = .ok config)

include accepted

/-- A setup of logging that fails ends the program. -/
theorem lint_of_setUp_error {halt : Halt}
    (failed : setUp arguments config desk = (ready, .error halt)) :
    lint linterOf arguments desk = ready.halt halt := by
  -- Not by its equation, which would take the settings apart.
  delta lint
  simp only [accepted, failed]

section

variable (logs : setUp arguments config desk = (ready, .ok ()))
  (inTurn : InTurn (linterOf config) 0 ready arguments.files attempts)

include logs inTurn

/-- An attempt that gives no report ends the program. -/
theorem lint_of_stopped {failing : Attempt} (among : failing ∈ attempts) {halt : Halt}
    (failed : failing.outcome = .error halt) :
    lint linterOf arguments desk = failing.after.halt halt := by
  obtain ⟨_, left, halted⟩ := inTurn.stopped among failed
  delta lint
  simp only [accepted, logs, inTurn.lintPaths_eq, halted, left]

/-- If every attempt gives a report, all of them are printed. -/
theorem lint_of_reported {results : List Result}
    (collected : attempts.mapM Attempt.result = .ok results) :
    lint linterOf arguments desk =
      ((Attempt.leave ready attempts).print
        (printed arguments.json arguments.listsVariables results),
        .status (exitStatus results)) := by
  delta lint
  simp only [accepted, logs, inTurn.lintPaths_eq, collected]

end

/-- What decides how a program ends. -/
inductive Decides (linter : Linter) (arguments : Arguments) (config : Config) (desk : Desk) :
    Exit → Prop where
  | setUp {halt} (failed : (setUp arguments config desk).2 = .error halt) :
      Decides linter arguments config desk halt.exit
  | attempt {ready attempts failing halt} (logs : setUp arguments config desk = (ready, .ok ()))
      (inTurn : InTurn linter 0 ready arguments.files attempts) (among : failing ∈ attempts)
      (failed : failing.outcome = .error halt) : Decides linter arguments config desk halt.exit
  | reports {ready attempts results} (logs : setUp arguments config desk = (ready, .ok ()))
      (inTurn : InTurn linter 0 ready arguments.files attempts)
      (reports : attempts.map Attempt.result = results.map .ok) :
      Decides linter arguments config desk (.status (exitStatus results))

/-- How a program ends is decided by its setup, by an attempt or by its reports. -/
theorem decides_lint :
    Decides (linterOf config) arguments config desk (lint linterOf arguments desk).2 := by
  rcases isSetUp : setUp arguments config desk with ⟨ready, halt | _⟩
  · rw [lint_of_setUp_error accepted isSetUp, exit_halt]
    exact .setUp (congrArg Prod.snd isSetUp)
  · obtain ⟨attempts, inTurn⟩ := exists_inTurn (linterOf config) 0 ready arguments.files
    cases collected : attempts.mapM Attempt.result with
    | ok results =>
        rw [lint_of_reported accepted isSetUp inTurn collected]
        exact .reports isSetUp inTurn (inTurn.reported collected).1
    | error halt =>
        obtain ⟨failing, among, failed⟩ := Attempt.exists_of_mapM_eq_error collected
        rw [lint_of_stopped accepted isSetUp inTurn among failed, exit_halt]
        exact .attempt isSetUp inTurn among failed

end

/-- A program is all or nothing, whatever its linter does. Logging to the error stream alone is
always set up. Once logging is, the paths are attempted in their order, each attempt where the one
before has left off. Attempts give reports or fail where paths hold no character that no path may
hold and all runs are told about. If one of them fails, it is the last one, nothing is printed, and
the program ends with the status of a failure. If all give reports, every path has one: the status
tells whether one of them has an error, and the lines are those of the reports path by path, first
the errors, then the warnings, and then, on request, the variables. -/
theorem lint_all_or_nothing (linterOf : Config → Linter) (arguments : Arguments) (desk : Desk)
    (config : Config) (accepted : settings desk.session.host arguments = .ok config) :
    (said arguments.logDir = none → (setUp arguments config desk).2 = .ok ()) ∧
    ∀ ready, setUp arguments config desk = (ready, .ok ()) →
      ∃ attempts, InTurn (linterOf config) 0 ready arguments.files attempts ∧
        attempts.map Attempt.path <+: arguments.files ∧
        ((∀ path ∈ arguments.files, path ≠ "-" → Host.holdsNul path = false) →
          (∀ number host source, Told (linterOf config number host source).ending) →
            ∀ attempt ∈ attempts, (∃ report, attempt.outcome = .ok report) ∨
              ∃ message, attempt.outcome = .error (.failure message)) ∧
        (∀ failing ∈ attempts, ∀ message, failing.outcome = .error (.failure message) →
          (∃ earlier, attempts = earlier ++ [failing]) ∧
          lint linterOf arguments desk =
            (failing.after.complain (failureMark ++ message), .status 2) ∧
          (lint linterOf arguments desk).1.output = desk.output) ∧
        ((∀ attempt ∈ attempts, attempt.outcome.isOk = true) →
          ∃ results : List Result, results.map Prod.fst = arguments.files ∧
            attempts.map Attempt.result = results.map .ok ∧
            (lint linterOf arguments desk).2 =
              .status (if ∃ result ∈ results, result.2.errors ≠ [] then 1 else 0) ∧
            (arguments.json = false → (lint linterOf arguments desk).1.output = desk.output ++
              String.join (results.flatMap fun (path, report) =>
                (report.errors.map (Diagnostic.line path .error) ++
                  report.warnings.map (Diagnostic.line path .warning) ++
                  if arguments.listsVariables then report.symbols.map (Variable.line path)
                  else []).map endLine))) := by
  refine ⟨setUp_without_directory accepted, fun ready logs => ?_⟩
  obtain ⟨attempts, inTurn⟩ := exists_inTurn (linterOf config) 0 ready arguments.files
  have silent : (Attempt.leave ready attempts).output = desk.output :=
    inTurn.output_leave.trans (setUp_keeps logs).1
  refine ⟨attempts, inTurn, inTurn.paths_isPrefix,
    fun arePaths allTold _ among => inTurn.told arePaths allTold among, ?failing, ?reported⟩
  case failing =>
    intro failing among message failed
    have comes := lint_of_stopped accepted logs inTurn among failed
    obtain ⟨isLast, left, _⟩ := inTurn.stopped among failed
    rw [left] at silent
    exact ⟨isLast, comes, (congrArg (·.1.output) comes).trans silent⟩
  case reported =>
    intro all
    obtain ⟨results, collected⟩ := Attempt.exists_of_isOk all
    obtain ⟨reports, ofPaths⟩ := inTurn.reported collected
    rw [lint_of_reported accepted logs inTurn collected]
    refine ⟨results, ofPaths, reports, congrArg _ (exitStatus_eq results), fun asText => ?_⟩
    rw [asText, printed_text]
    exact congrArg (· ++ _) silent

/-- Standard input and a file that is not there, for the program `cat`. -/
def inputAndMissingFile : Arguments :=
  { Arguments.none with files := ["-", "missing.sqf"], command := some "cat" }

/-- A desk on a fresh host, with nothing on standard input. -/
def freshDesk : Desk := .start (.fresh []) ⟨2024, 1, 1, 12, 0, 0, 0⟩ []

/-- A linter that has nothing to say about any text. -/
def contentLinter : Config → Linter :=
  fun _ _ _ _ => .childless (.report (Report.freeze .empty)) []

/-- Standard input has a report, but the file that is not there stops the program: the attempt at it
fails and comes last, the report is not printed, and the status is that of a failure. -/
theorem lint_inputAndMissingFile : ∃ config ready earlier failing message,
    settings freshDesk.session.host inputAndMissingFile = .ok config ∧
      setUp inputAndMissingFile config freshDesk = (ready, .ok ()) ∧
      InTurn (contentLinter config) 0 ready ["-", "missing.sqf"] (earlier ++ [failing]) ∧
      failing.path = "missing.sqf" ∧ failing.outcome = .error (.failure message) ∧
      (lint contentLinter inputAndMissingFile freshDesk).2 = .status 2 ∧
      (lint contentLinter inputAndMissingFile freshDesk).1.output = "" := by
  obtain ⟨config, accepted⟩ :
      ∃ config, settings freshDesk.session.host inputAndMissingFile = .ok config :=
    exists_of_isOk (by decide +kernel)
  obtain ⟨logs, goesOn⟩ :=
    lint_all_or_nothing contentLinter inputAndMissingFile freshDesk config accepted
  rcases isReady : setUp inputAndMissingFile config freshDesk with ⟨ready, outcome⟩
  obtain rfl : outcome = .ok () := by rw [← logs rfl, isReady]
  obtain ⟨attempts, inTurn, -, told, stops, reported⟩ := goesOn ready isReady
  -- The program ends with the status of a failure, so not all attempts give reports.
  have status : (lint contentLinter inputAndMissingFile freshDesk).2.code? = some 2 := by
    decide +kernel
  obtain ⟨failing, among, fails⟩ : ∃ attempt ∈ attempts, ¬ attempt.outcome.isOk = true := by
    cases all : attempts.all (·.outcome.isOk) with
    | false => exact List.all_eq_false.mp all
    | true =>
        obtain ⟨results, -, -, isStatus, -⟩ := reported (List.all_eq_true.mp all)
        rw [isStatus] at status
        split at status <;> cases status
  obtain ⟨report, isReport⟩ | ⟨message, failed⟩ :=
    told (by decide) (fun _ _ _ => .report _) failing among
  · exact absurd (congrArg Except.isOk isReport) fails
  obtain ⟨⟨earlier, rfl⟩, comes, silent⟩ := stops failing among message failed
  obtain ⟨isPath, number, attempted⟩ := inTurn.attempted among
  have isMissing : failing.path = "missing.sqf" := by
    rcases List.mem_cons.mp isPath with isInput | isFile
    · -- Standard input can be read, and whatever it is, it has a report.
      rw [isInput] at attempted
      obtain ⟨⟨host, ended⟩, -⟩ :=
        @lintPath_of_read (contentLinter config) number failing.before "-" _ _ rfl
      rw [attempted, failed] at ended
      cases ended
    · exact List.mem_singleton.mp isFile
  exact ⟨config, ready, earlier, failing, message, accepted, isReady, inTurn, isMissing, failed,
    congrArg Prod.snd comes, silent⟩

end CommandLine

end LintClient
