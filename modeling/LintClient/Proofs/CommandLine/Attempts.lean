import LintClient.CommandLine.Program
import LintClient.Proofs.Results

/-!
# Attempts

How a program goes through its paths: it makes an attempt at one after the other, each where the one
before has left off, and none behind an attempt that gives no report. `InTurn` says so as a
relation, and linting paths comes to what the attempts in turn come to (`InTurn.lintPaths_eq`). What
every attempt keeps is kept to the end (`InTurn.keeps`).
-/

namespace LintClient.CommandLine

open Text (Source)

/-- An attempt at a path: the desk before and after it, and what has come of it. -/
structure Attempt where
  path : String
  before : Desk
  after : Desk
  outcome : Except Halt LintReport

/-- The report of an attempt with its path. -/
def Attempt.result (attempt : Attempt) : Except Halt Result :=
  attempt.outcome.map (attempt.path, ·)

/-- An attempt has a result if its outcome is a report. -/
theorem Attempt.result_eq_ok {attempt : Attempt} {result : Result} :
    attempt.result = .ok result ↔
      ∃ report, attempt.outcome = .ok report ∧ (attempt.path, report) = result := by
  unfold Attempt.result
  cases attempt.outcome <;> simp [Except.map]

/-- An attempt has no result if its outcome is none, and for the same reason. -/
theorem Attempt.result_eq_error {attempt : Attempt} {halt : Halt} :
    attempt.result = .error halt ↔ attempt.outcome = .error halt := by
  unfold Attempt.result
  cases attempt.outcome <;> simp [Except.map]

/-- The desk that attempts leave. -/
def Attempt.leave (desk : Desk) (attempts : List Attempt) : Desk :=
  attempts.foldl (fun _ attempt => attempt.after) desk

/-- Attempts at paths in turn, from a run of a number and a desk on: up to the first one that gives
no report. -/
inductive InTurn (linter : Linter) : Nat → Desk → List String → List Attempt → Prop where
  | done {number desk} : InTurn linter number desk [] []
  | stops {number desk path paths after halt}
      (stopped : lintPath linter number desk path = (after, .error halt)) :
      InTurn linter number desk (path :: paths) [⟨path, desk, after, .error halt⟩]
  | goesOn {number desk path paths after report attempts}
      (reported : lintPath linter number desk path = (after, .ok report))
      (later : InTurn linter (number + 1) after paths attempts) :
      InTurn linter number desk (path :: paths) (⟨path, desk, after, .ok report⟩ :: attempts)

/-- If not every attempt gives a report, then because one of them is stopped. -/
theorem Attempt.exists_of_mapM_eq_error {attempts : List Attempt} {halt : Halt}
    (halted : attempts.mapM Attempt.result = .error halt) :
    ∃ failing ∈ attempts, failing.outcome = .error halt := by
  obtain ⟨failing, among, failed⟩ := LintClient.exists_of_mapM_eq_error halted
  exact ⟨failing, among, Attempt.result_eq_error.mp failed⟩

/-- Attempts that all give reports give all reports. -/
theorem Attempt.exists_of_isOk {attempts : List Attempt}
    (all : ∀ attempt ∈ attempts, attempt.outcome.isOk = true) :
    ∃ results, attempts.mapM Attempt.result = .ok results := by
  cases collected : attempts.mapM Attempt.result with
  | ok results => exact ⟨results, rfl⟩
  | error halt =>
      obtain ⟨failing, among, failed⟩ := Attempt.exists_of_mapM_eq_error collected
      have reports := all failing among
      rw [failed] at reports
      cases reports

/-- A report among those of attempts is the report of one of them. -/
theorem Attempt.exists_of_mem_reports {attempts : List Attempt} {results : List Result}
    (reports : attempts.map Attempt.result = results.map .ok) {result : Result}
    (among : result ∈ results) :
    ∃ attempt ∈ attempts, attempt.outcome = .ok result.2 := by
  have there : Except.ok result ∈ attempts.map Attempt.result := by
    rw [reports]
    exact List.mem_map_of_mem among
  obtain ⟨attempt, attempted, gives⟩ := List.mem_map.mp there
  obtain ⟨report, isReport, rfl⟩ := Attempt.result_eq_ok.mp gives
  exact ⟨attempt, attempted, isReport⟩

variable (linter : Linter)

/-- Every list of paths is gone through. -/
theorem exists_inTurn (number : Nat) (desk : Desk) (paths : List String) :
    ∃ attempts, InTurn linter number desk paths attempts := by
  induction paths generalizing number desk with
  | nil => exact ⟨[], .done⟩
  | cons path paths inductionHypothesis =>
      rcases attempted : lintPath linter number desk path with ⟨after, outcome⟩
      cases outcome with
      | error halt => exact ⟨_, .stops attempted⟩
      | ok report =>
          obtain ⟨attempts, later⟩ := inductionHypothesis (number + 1) after
          exact ⟨_, .goesOn attempted later⟩

namespace InTurn

variable {linter} {number : Nat} {desk : Desk} {paths : List String} {attempts : List Attempt}

/-- To lint paths is to leave what the attempts leave, with the reports of all of them, or with the
reason for which one of them gives none. -/
theorem lintPaths_eq (inTurn : InTurn linter number desk paths attempts) :
    lintPaths linter number desk paths =
      (Attempt.leave desk attempts, attempts.mapM Attempt.result) := by
  induction inTurn with
  | done => rfl
  | stops stopped =>
      rw [lintPaths, stopped]
      rfl
  | goesOn reported _ inductionHypothesis =>
      rw [lintPaths, reported]
      simp only [inductionHypothesis, List.mapM_cons]
      rfl

/-- Paths are attempted in their order. -/
theorem paths_isPrefix (inTurn : InTurn linter number desk paths attempts) :
    attempts.map Attempt.path <+: paths := by
  induction inTurn with
  | done => exact List.prefix_rfl
  | stops _ => exact ⟨_, rfl⟩
  | goesOn _ _ inductionHypothesis => exact List.cons_prefix_cons.mpr ⟨rfl, inductionHypothesis⟩

/-- An attempt that gives no report is the last one, and decides what comes of all. -/
theorem stopped (inTurn : InTurn linter number desk paths attempts) {failing : Attempt}
    (among : failing ∈ attempts) {halt : Halt} (failed : failing.outcome = .error halt) :
    (∃ earlier, attempts = earlier ++ [failing]) ∧ Attempt.leave desk attempts = failing.after ∧
      attempts.mapM Attempt.result = .error halt := by
  induction inTurn with
  | done => cases among
  | stops _ =>
      obtain rfl := List.mem_singleton.mp among
      cases failed
      exact ⟨⟨[], rfl⟩, rfl, rfl⟩
  | goesOn _ _ inductionHypothesis =>
      rcases List.mem_cons.mp among with rfl | later
      · cases failed
      · obtain ⟨⟨earlier, rfl⟩, left, halted⟩ := inductionHypothesis later
        refine ⟨⟨_ :: earlier, rfl⟩, left, ?_⟩
        rw [List.mapM_cons, halted]
        rfl

/-- If there are all reports, they are those of the attempts, and every path has one. -/
theorem reported (inTurn : InTurn linter number desk paths attempts) {results : List Result}
    (collected : attempts.mapM Attempt.result = .ok results) :
    attempts.map Attempt.result = results.map .ok ∧ results.map Prod.fst = paths := by
  induction inTurn generalizing results with
  | done =>
      cases collected
      exact ⟨rfl, rfl⟩
  | stops _ => cases collected
  | goesOn _ _ inductionHypothesis =>
      rw [List.mapM_cons] at collected
      obtain ⟨first, isFirst, collected⟩ := bind_eq_ok.mp collected
      obtain ⟨others, areOthers, collected⟩ := bind_eq_ok.mp collected
      cases isFirst
      cases collected
      obtain ⟨reports, ofPaths⟩ := inductionHypothesis areOthers
      exact ⟨congrArg (_ :: ·) reports, congrArg (_ :: ·) ofPaths⟩

/-- Every attempt is at one of the paths, and comes to what linting that path comes to. -/
theorem attempted (inTurn : InTurn linter number desk paths attempts) {attempt : Attempt}
    (among : attempt ∈ attempts) : attempt.path ∈ paths ∧
      ∃ number, lintPath linter number attempt.before attempt.path =
        (attempt.after, attempt.outcome) := by
  induction inTurn with
  | done => cases among
  | stops stopped =>
      obtain rfl := List.mem_singleton.mp among
      exact ⟨List.mem_cons_self, _, stopped⟩
  | goesOn reported _ inductionHypothesis =>
      rcases List.mem_cons.mp among with rfl | later
      · exact ⟨List.mem_cons_self, _, reported⟩
      · obtain ⟨isPath, attempted⟩ := inductionHypothesis later
        exact ⟨List.mem_cons_of_mem _ isPath, attempted⟩

/-- What no attempt changes about the desk holds before all of them and at the end. -/
theorem keeps {holds : Desk → Prop}
    (kept : ∀ number desk path, holds desk → holds (lintPath linter number desk path).1)
    (inTurn : InTurn linter number desk paths attempts) (start : holds desk) :
    (∀ attempt ∈ attempts, holds attempt.before) ∧ holds (Attempt.leave desk attempts) := by
  induction inTurn with
  | done => exact ⟨nofun, start⟩
  | @stops number desk path _ _ _ stopped =>
      have afterwards := kept number desk path start
      rw [stopped] at afterwards
      refine ⟨fun attempt among => ?_, afterwards⟩
      obtain rfl := List.mem_singleton.mp among
      exact start
  | @goesOn number desk path _ _ _ _ reported _ inductionHypothesis =>
      have afterwards := kept number desk path start
      rw [reported] at afterwards
      obtain ⟨each, final⟩ := inductionHypothesis afterwards
      refine ⟨fun attempt among => ?_, final⟩
      rcases List.mem_cons.mp among with rfl | later
      · exact start
      · exact each attempt later

end InTurn

/-! ## Single attempts -/

/-- Logging prints nothing on standard output. -/
@[simp]
theorem Desk.output_emit (desk : Desk) (records : List LogRecord) :
    (desk.emit records).output = desk.output := rfl

/-- Logging takes nothing from standard input. -/
@[simp]
theorem Desk.input_emit (desk : Desk) (records : List LogRecord) :
    (desk.emit records).input = desk.input := rfl

/-- A change of files prints nothing on standard output. -/
@[simp]
theorem Desk.output_withFiles (desk : Desk) (files : Option Host.FileTree) :
    (desk.withFiles files).output = desk.output := by
  cases files <;> rfl

/-- A change of files takes nothing from standard input. -/
@[simp]
theorem Desk.input_withFiles (desk : Desk) (files : Option Host.FileTree) :
    (desk.withFiles files).input = desk.input := by
  cases files <;> rfl

/-- A text comes from standard input, of which nothing is left then, or from a file. -/
theorem readSource_eq_ok {desk left : Desk} {path : String} {source : Source}
    (read : readSource desk path = .ok (source, left)) :
    path = "-" ∧ source = .ofInput desk.input ∧ left = { desk with input := [] } ∨
      path ≠ "-" ∧ (∃ bytes, source = .ofFile bytes) ∧ left = desk := by
  unfold readSource at read
  split at read
  · next isInput =>
    cases read
    exact .inl ⟨isInput, rfl, rfl⟩
  · next isFile =>
    split at read
    · cases read
    · simp only at read
      split at read
      · cases read
        exact .inr ⟨isFile, ⟨_, rfl⟩, rfl⟩
      · cases read

/-- A file that cannot be read is a failure that is told, unless its path is none. -/
theorem readSource_eq_error {desk : Desk} {path : String} {halt : Halt}
    (unread : readSource desk path = .error halt) :
    path ≠ "-" ∧ (halt = .escape .path ∧ Host.holdsNul path = true ∨
      ∃ message, halt = .failure message) := by
  unfold readSource at unread
  split at unread
  · cases unread
  · next isFile =>
    refine ⟨isFile, ?_⟩
    split at unread
    · next nul =>
      cases unread
      exact .inl ⟨rfl, nul⟩
    · simp only at unread
      split at unread
      · cases unread
      · cases unread
        exact .inr ⟨_, rfl⟩

section

variable {number : Nat} {desk : Desk} {path : String}

/-- Where a source cannot be read, nothing else is done. -/
theorem lintPath_of_unread {halt : Halt} (unread : readSource desk path = .error halt) :
    lintPath linter number desk path = (desk, .error halt) := by
  rw [lintPath, unread]

/-- What comes of a text that is read is what its run ends with. Neither what is printed nor
standard input has a part in it. -/
theorem lintPath_of_read {source : Source} {left : Desk}
    (read : readSource desk path = .ok (source, left)) :
    (∃ host, (lintPath linter number desk path).2 = reportOf (linter number host source).ending) ∧
      (lintPath linter number desk path).1.output = left.output ∧
      (lintPath linter number desk path).1.input = left.input := by
  simp only [lintPath, read]
  split
  · next halt halted => exact ⟨⟨_, halted.symm⟩, by simp, by simp⟩
  · next report reported => exact ⟨⟨_, reported.symm⟩, by simp, by simp⟩

/-- Nothing is printed while a path is linted. -/
theorem output_lintPath : (lintPath linter number desk path).1.output = desk.output := by
  cases read : readSource desk path with
  | error halt => rw [lintPath_of_unread linter read]
  | ok pair =>
      obtain ⟨source, left⟩ := pair
      rw [(lintPath_of_read linter read).2.1]
      rcases readSource_eq_ok read with ⟨-, -, rfl⟩ | ⟨-, -, rfl⟩ <;> rfl

/-- Standard input is as it was, or nothing is left of it. -/
theorem input_lintPath : (lintPath linter number desk path).1.input = desk.input ∨
    (lintPath linter number desk path).1.input = [] := by
  cases read : readSource desk path with
  | error halt => exact .inl (by rw [lintPath_of_unread linter read])
  | ok pair =>
      obtain ⟨source, left⟩ := pair
      rw [(lintPath_of_read linter read).2.2]
      rcases readSource_eq_ok read with ⟨-, -, rfl⟩ | ⟨-, -, rfl⟩
      · exact .inr rfl
      · exact .inl rfl

end

namespace InTurn

variable {linter} {number : Nat} {desk : Desk} {paths : List String} {attempts : List Attempt}

/-- Nothing is printed while paths are linted. -/
theorem output_leave (inTurn : InTurn linter number desk paths attempts) :
    (Attempt.leave desk attempts).output = desk.output := by
  have kept : ∀ number found path, found.output = desk.output →
      (lintPath linter number found path).1.output = desk.output :=
    fun _ _ _ held => (output_lintPath linter).trans held
  exact (inTurn.keeps kept rfl).2

/-- At every attempt standard input is as it was, or nothing is left of it. -/
theorem input_before (inTurn : InTurn linter number desk paths attempts) :
    ∀ attempt ∈ attempts, attempt.before.input = desk.input ∨ attempt.before.input = [] := by
  have kept : ∀ number found path, (found.input = desk.input ∨ found.input = []) →
      (lintPath linter number found path).1.input = desk.input ∨
        (lintPath linter number found path).1.input = [] := by
    intro number found path held
    rcases input_lintPath linter with same | nothing
    · rwa [same]
    · exact .inr nothing
  exact (inTurn.keeps kept (.inl rfl)).1

end InTurn

/-- How an attempt has come to its outcome: its path is none, its file cannot be read, or its text
has been given to a run. -/
inductive Attempt.Course (linter : Linter) (attempt : Attempt) : Prop where
  | noPath (isFile : attempt.path ≠ "-") (nul : Host.holdsNul attempt.path = true)
      (escaped : attempt.outcome = .error (.escape .path)) : Course linter attempt
  | unread {message} (told : attempt.outcome = .error (.failure message)) : Course linter attempt
  | ran {source left number host}
    (read : readSource attempt.before attempt.path = .ok (source, left))
      (ended : attempt.outcome = reportOf (linter number host source).ending) :
      Course linter attempt

/-- Every attempt is at one of the paths, and comes to its outcome in its course. -/
theorem InTurn.course {linter : Linter} {number : Nat} {desk : Desk} {paths : List String}
    {attempts : List Attempt} (inTurn : InTurn linter number desk paths attempts)
    {attempt : Attempt} (among : attempt ∈ attempts) :
    attempt.path ∈ paths ∧ attempt.Course linter := by
  obtain ⟨isPath, number, attempted⟩ := inTurn.attempted among
  refine ⟨isPath, ?_⟩
  cases read : readSource attempt.before attempt.path with
  | error halt =>
      have isHalt : attempt.outcome = .error halt :=
        congrArg Prod.snd (attempted.symm.trans (lintPath_of_unread linter read))
      obtain ⟨isFile, ⟨rfl, nul⟩ | ⟨message, rfl⟩⟩ := readSource_eq_error read
      · exact .noPath isFile nul isHalt
      · exact .unread isHalt
  | ok pair =>
      obtain ⟨source, left⟩ := pair
      obtain ⟨⟨host, ended⟩, -, -⟩ := @lintPath_of_read linter number _ _ _ _ read
      rw [attempted] at ended
      exact .ran read ended

/-- An ending of a run that is told about: a report, a failure, or a file in the way. -/
inductive Told : Run.Ending → Prop where
  | report (report : LintReport) : Told (.report report)
  | failed (failure : LintError) : Told (.failed failure)
  | obstructed (error : Host.FileError) : Told (.obstructed (.file error))

/-- Where paths are paths and all runs are told about, every attempt gives a report or a failure. -/
theorem InTurn.told {linter : Linter} {number : Nat} {desk : Desk} {paths : List String}
    {attempts : List Attempt} (inTurn : InTurn linter number desk paths attempts)
    (arePaths : ∀ path ∈ paths, path ≠ "-" → Host.holdsNul path = false)
    (allTold : ∀ number host source, Told (linter number host source).ending) {attempt : Attempt}
    (among : attempt ∈ attempts) :
    (∃ report, attempt.outcome = .ok report) ∨
      ∃ message, attempt.outcome = .error (.failure message) := by
  obtain ⟨isPath, course⟩ := inTurn.course among
  cases course with
  | noPath isFile nul _ =>
      rw [arePaths _ isPath isFile] at nul
      cases nul
  | @unread message told => exact .inr ⟨message, told⟩
  | @ran source left number host read ended =>
      have isTold := allTold number host source
      rw [ended]
      generalize (linter number host source).ending = ending at isTold
      cases isTold with
      | report report => exact .inl ⟨report, rfl⟩
      | failed failure => exact .inr ⟨failure.text, rfl⟩
      | obstructed error => exact .inr ⟨error.message, rfl⟩

end LintClient.CommandLine
