import LintClient.Proofs.CommandLine.Console
import LintClient.Proofs.Json.Members
import LintClient.Proofs.Report.Reconstruction
import LintClient.Proofs.Run.Output
import Mathlib

/-!
# The document and the exit status

Both tell about the same reports. The status tells about all of them, while the document has one
member for each path and shows the last report of it. So the document tells of errors and holds the
entries of a call exactly as far as the last reports do (`lint_document`); for different paths these
are all reports. A path that is linted again can leave a document without any error behind the
status of errors (`document_conceals_errors`).
-/

namespace LintClient

namespace LintReport

/-- The entries that a report holds. -/
def Holds (report : LintReport) : LintEntry → Prop
  | .error diagnostic => diagnostic ∈ report.errors
  | .warning diagnostic => diagnostic ∈ report.warnings
  | .symbol entry => entry ∈ report.symbols

/-- Where the object of a report lists an entry, and the object of the entry. -/
def listing : LintEntry → String × Json
  | .error diagnostic => ("errors", diagnostic.toJson .error)
  | .warning diagnostic => ("warnings", diagnostic.toJson .warning)
  | .symbol entry => ("variables", entry.toJson)

/-- An object lists an entry. -/
def Lists (value : Json) (entry : LintEntry) : Prop :=
  ∃ items, value.fieldOf? (listing entry).1 = some (.list items) ∧ (listing entry).2 ∈ items

/-- Whether an object lists errors. -/
def listsErrors (value : Json) : Bool :=
  match value.fieldOf? "errors" with
  | some (.list (_ :: _)) => true
  | _ => false

/-- The object of a report lists what the report holds, and nothing else. -/
theorem lists_toJson_iff {report : LintReport} {entry : LintEntry} :
    Lists report.toJson entry ↔ report.Holds entry := by
  cases entry with
  | error diagnostic =>
      simp [Lists, listing, Holds, toJson, Json.fieldOf?_object,
        (Diagnostic.toJson_injective .error).eq_iff]
  | warning diagnostic =>
      simp [Lists, listing, Holds, toJson, Json.fieldOf?_object, List.lookup_cons,
        (Diagnostic.toJson_injective .warning).eq_iff]
  | symbol entry =>
      simp [Lists, listing, Holds, toJson, Json.fieldOf?_object, List.lookup_cons,
        Variable.toJson_injective.eq_iff]

/-- The object of a report lists errors exactly if the report has some. -/
theorem listsErrors_toJson_iff {report : LintReport} :
    listsErrors report.toJson = true ↔ report.errors ≠ [] := by
  cases errors : report.errors <;>
    simp [listsErrors, toJson, Json.fieldOf?_object, errors]

end LintReport

namespace CommandLine

open LintReport (Lists listsErrors lists_toJson_iff listsErrors_toJson_iff)

/-! ## Documents -/

/-- The last report for a path. -/
def lastReport? (path : String) (results : List Result) : Option LintReport :=
  results.reverse.lookup path

/-- Whether one of the members of a document lists errors. -/
def tellsErrors : Json → Bool
  | .object members => members.any fun (_, value) => listsErrors value
  | _ => false

/-- The member of a document for a path lists an entry. -/
def Occurs (document : Json) (path : String) (entry : LintEntry) : Prop :=
  ∃ value, document.fieldOf? path = some value ∧ Lists value entry

/-- Of reports for different paths each is the last one for its path. -/
theorem lastReport?_of_nodup {results : List Result} (different : (results.map Prod.fst).Nodup)
    {result : Result} (there : result ∈ results) :
    lastReport? result.1 results = some result.2 := by
  refine (Json.lookup_eq_some_iff_mem ?_).mpr (List.mem_reverse.mpr there)
  rwa [List.map_reverse, List.nodup_reverse]

/-- The last report for a path is one of the reports. -/
theorem mem_of_lastReport? {results : List Result} {path : String} {report : LintReport}
    (isLast : lastReport? path results = some report) : (path, report) ∈ results := by
  obtain ⟨before, after, same, -⟩ := List.lookup_eq_some_iff.mp isLast
  rw [← List.mem_reverse, same]
  exact List.mem_append_right _ List.mem_cons_self

/-- The member of the document for a path is made of the last report for it. -/
theorem fieldOf?_document (path : String) (results : List Result) :
    (document results).fieldOf? path = (lastReport? path results).map LintReport.toJson := by
  rw [document, Json.fieldOf?_object]
  refine (Json.member?_membersOf path _).trans ?_
  rw [Json.lastMember?, ← List.map_reverse]
  exact Json.lookup_map LintReport.toJson path results.reverse

/-- What occurs in the document is what the last reports hold. -/
theorem occurs_document_iff {path : String} {entry : LintEntry} {results : List Result} :
    Occurs (document results) path entry ↔
      ∃ report, lastReport? path results = some report ∧ report.Holds entry := by
  simp only [Occurs, fieldOf?_document, Option.map_eq_some_iff]
  constructor
  · rintro ⟨_, ⟨report, isLast, rfl⟩, lists⟩
    exact ⟨report, isLast, lists_toJson_iff.mp lists⟩
  · rintro ⟨report, isLast, holds⟩
    exact ⟨_, ⟨report, isLast, rfl⟩, lists_toJson_iff.mpr holds⟩

/-- The members of the document are made of the last reports. -/
theorem mem_document_iff {results : List Result} {members : List (String × Json)}
    (isDocument : document results = .object members) {path : String} {value : Json} :
    (path, value) ∈ members ↔
      ∃ report, lastReport? path results = some report ∧ report.toJson = value := by
  rw [← Option.map_eq_some_iff, ← fieldOf?_document, isDocument, Json.fieldOf?_object]
  cases isDocument
  exact (Json.lookup_eq_some_iff_mem (Json.nodup_keys_membersOf _)).symm

/-- The document tells of errors if one of the last reports has any. -/
theorem tellsErrors_document_iff {results : List Result} :
    tellsErrors (document results) = true ↔
      ∃ path report, lastReport? path results = some report ∧ report.errors ≠ [] := by
  obtain ⟨members, isDocument⟩ : ∃ members, document results = .object members := ⟨_, rfl⟩
  simp only [isDocument, tellsErrors, List.any_eq_true, Prod.exists, mem_document_iff isDocument]
  constructor
  · rintro ⟨path, _, ⟨report, isLast, rfl⟩, lists⟩
    exact ⟨path, report, isLast, listsErrors_toJson_iff.mp lists⟩
  · rintro ⟨path, report, isLast, errors⟩
    exact ⟨path, _, ⟨report, isLast, rfl⟩, listsErrors_toJson_iff.mpr errors⟩

/-! ## Calls -/

/-- The status is that of errors exactly if a report has some. -/
theorem exitStatus_eq_one_iff {results : List Result} :
    exitStatus results = 1 ↔ ∃ result ∈ results, result.2.errors ≠ [] := by
  rw [exitStatus_eq, ite_eq_left_iff]
  exact ⟨fun only => by_contra fun none => Nat.zero_ne_one (only none), fun any none =>
    absurd any none⟩

/-- A call that obtains reports has one for each path, prints them after what was there, and has
their status. -/
theorem lint_of_lintPaths {linterOf : Config → Linter} {arguments : Arguments}
    {desk ready left : Desk}
    {config : Config} {results : List Result}
    (accepted : settings desk.session.host arguments = .ok config)
    (logs : setUp arguments config desk = (ready, .ok ()))
    (reported : lintPaths (linterOf config) 0 ready arguments.files = (left, .ok results)) :
    results.map Prod.fst = arguments.files ∧
      (lint linterOf arguments desk).1.output =
        desk.output ++ printed arguments.json arguments.listsVariables results ∧
      (lint linterOf arguments desk).2 = .status (exitStatus results) := by
  obtain ⟨attempts, inTurn⟩ := exists_inTurn (linterOf config) 0 ready arguments.files
  obtain ⟨rfl, collected⟩ := Prod.mk.inj (inTurn.lintPaths_eq.symm.trans reported)
  rw [lint_of_reported accepted logs inTurn collected]
  exact ⟨(inTurn.reported collected).2,
    congrArg (· ++ _) (inTurn.output_leave.trans (setUp_keeps logs).1), rfl⟩

/-- A call that prints a document has the status of errors if one of its reports has any. The
document has one member for each path, in the order in which the paths come first. It tells of the
errors, and holds the entries, of the last report for each path and of no other. So a document that
tells of errors comes with the status of errors; and if the paths are different, both say the same,
and every entry of every report occurs in the document. -/
theorem lint_document (linterOf : Config → Linter) (arguments : Arguments) (desk ready left : Desk)
    (config : Config) (results : List Result)
    (accepted : settings desk.session.host arguments = .ok config)
    (logs : setUp arguments config desk = (ready, .ok ()))
    (reported : lintPaths (linterOf config) 0 ready arguments.files = (left, .ok results))
    (asJson : arguments.json = true) :
    (lint linterOf arguments desk).1.output =
        desk.output ++ endLine (Json.print .indented (document results)) ∧
      ((lint linterOf arguments desk).2 = .status 1 ↔ ∃ result ∈ results, result.2.errors ≠ []) ∧
      (∃ members, document results = .object members ∧
        members.map Prod.fst = arguments.files.eraseDups) ∧
      (tellsErrors (document results) = true ↔
        ∃ path report, lastReport? path results = some report ∧ report.errors ≠ []) ∧
      (∀ path entry, Occurs (document results) path entry ↔
        ∃ report, lastReport? path results = some report ∧ report.Holds entry) ∧
      (tellsErrors (document results) = true → (lint linterOf arguments desk).2 = .status 1) ∧
      (arguments.files.Nodup →
        ((lint linterOf arguments desk).2 = .status 1 ↔ tellsErrors (document results) = true) ∧
        ∀ result ∈ results, ∀ entry, result.2.Holds entry →
          Occurs (document results) result.1 entry) := by
  obtain ⟨ofPaths, output, exits⟩ := lint_of_lintPaths accepted logs reported
  rw [asJson] at output
  have status : (lint linterOf arguments desk).2 = .status 1 ↔
      ∃ result ∈ results, result.2.errors ≠ [] := by
    rw [exits, Exit.status.injEq]
    exact exitStatus_eq_one_iff
  have told :
      tellsErrors (document results) = true → (lint linterOf arguments desk).2 = .status 1 := by
    intro tells
    obtain ⟨path, report, isLast, errors⟩ := tellsErrors_document_iff.mp tells
    exact status.mpr ⟨(path, report), mem_of_lastReport? isLast, errors⟩
  refine ⟨output, status, ⟨_, rfl, ?keys⟩, tellsErrors_document_iff, fun _ _ => occurs_document_iff,
    told, ?different⟩
  case keys =>
    rw [Json.keys_membersOf, ← ofPaths, List.map_map]
    rfl
  case different =>
    rw [← ofPaths]
    intro different
    refine ⟨⟨fun isStatus => ?_, told⟩, fun result there entry holds => ?_⟩
    · obtain ⟨result, there, errors⟩ := status.mp isStatus
      exact tellsErrors_document_iff.mpr
        ⟨result.1, result.2, lastReport?_of_nodup different there, errors⟩
    · exact occurs_document_iff.mpr ⟨result.2, lastReport?_of_nodup different there, holds⟩

/-! ## An input that is read twice -/

section ReadTwice

open Launch (Child)
open Run (Listening limitOf)

/-- Standard input twice, for the program `cat`, as a document. -/
def inputTwice : Arguments :=
  { Arguments.none with files := ["-", "-"], command := some "cat", json := true }

/-- An output with one error. -/
def oneError : List UInt8 := Text.Utf8.encode "\x7b\"type\":\"error\",\"error\":\"x\"\x7d\n".toList

/-- A fresh desk with such an output on standard input. -/
def oneErrorDesk : Desk := { freshDesk with input := oneError }

/-- A child that writes the text that it is given as its output. -/
def copying (text : List UInt8) : Child where
  arrivals := if text.isEmpty then [] else [(0, .output text)]
  delivery := .taken 0
  closed := some 0
  exit := some 0
  status := 0
  obeysTermination := true
  holders := []
  files := freshDesk.session.host.tree

/-- Whether settings ask for the program `cat`, with half a minute for each run. -/
def asksForCat (config : Config) : Bool :=
  match config.command, limitOf config.timeout with
  | .list [.str "cat"], .ok (.after 30000000) => true
  | _, _ => false

/-- The settings of the call ask for `cat` with the usual time limit. -/
theorem exists_asksForCat : ∃ config,
    settings oneErrorDesk.session.host inputTwice = .ok config ∧
      config.command = .list [.str "cat"] ∧ limitOf config.timeout = .ok (.after 30000000) := by
  have asks : (settings oneErrorDesk.session.host inputTwice).toOption.any asksForCat = true := by
    decide +kernel
  obtain ⟨config, accepted, known⟩ := exists_of_any_toOption asks
  unfold asksForCat at known
  split at known
  · next command limit => exact ⟨config, accepted, command, limit⟩
  · cases known

/-- `cat` is started, and copies what it is given. -/
theorem start_cat :
    ∃ behave, Launch.start freshDesk.session.host (.ofString "cat") [] = .ok behave ∧
      behave oneError = copying oneError ∧ behave [] = copying [] := by
  have copies : (Launch.start freshDesk.session.host (.ofString "cat") []).toOption.map
      (fun behave => (behave oneError, behave [])) = some (copying oneError, copying []) := by
    decide +kernel
  cases started : Launch.start freshDesk.session.host (.ofString "cat") [] with
  | error fault =>
      rw [started] at copies
      cases copies
  | ok behave =>
      rw [started] at copies
      obtain ⟨whole, nothing⟩ := Prod.mk.inj (Option.some.inj copies)
      exact ⟨behave, rfl, whole, nothing⟩

/-- A child that copies its text at once comes to its end in time. -/
theorem comesToEnd_copying (text : List UInt8) {limit : Json}
    (limited : limitOf limit = .ok (.after 30000000)) :
    Run.ComesToEnd (.usual "1") limit (copying text) where
  faultless := rfl
  uncancelled := rfl
  completes := by
    refine ⟨?_, ⟨0, rfl, ?_⟩, nofun, ⟨0, rfl, nofun⟩⟩ <;> cases text <;> simp [copying]
  inTime := by
    refine ⟨_, limited, fun event does => ?_⟩
    have early : event.1 = 0 := by
      cases does <;> cases text <;> simp_all [copying, Run.disconnectionOf]
    rw [early]
    change 0 < 30000000
    decide

/-- What a run of `cat` comes to. -/
theorem run_cat {config : Config} (isCat : config.command = .list [.str "cat"])
    (limited : limitOf config.timeout = .ok (.after 30000000)) (source : Text.Source)
    {text : List UInt8} (encoded : source.encode = .ok text) {behave : List UInt8 → Child}
    (started : Launch.start freshDesk.session.host (.ofString "cat") [] = .ok behave)
    (copies : behave text = copying text) (number : Nat) :
    reportOf (linterOf Launch.start "1" config number freshDesk.session.host source).ending =
        .ok (Listening.decoded (Run.Conditions.usual "1").source
          (copying text).chunks.flatten).report.freeze ∧
      ∀ tree ∈ (linterOf Launch.start "1" config number freshDesk.session.host source).files,
        tree = freshDesk.session.host.tree := by
  have built : Launch.command freshDesk.session.host config = .ok [.str "cat"] := by
    rw [Launch.command, isCat]
    rfl
  have words : Run.wordsOf [.str "cat"] = .ok [.ofString "cat"] := rfl
  constructor
  · have comes := comesToEnd_copying text limited
    rw [← copies] at comes ⊢
    simp only [linterOf]
    rw [Run.ending_run built words started, Run.runChild_of_comesToEnd _ encoded comes]
    rfl
  · intro tree written
    simp only [linterOf, Run.run, built, words, Run.runCommand, started, Run.runChild,
      Run.limitOf_counting, limited, encoded, copies] at written
    exact (Option.some.inj written).symm

/-- The first report for such an input is its error, and nothing of it is left for another one. -/
theorem lintPath_oneError {arguments : Arguments} {config : Config}
    (accepted : settings oneErrorDesk.session.host arguments = .ok config)
    (noDirectory : said arguments.logDir = none) (isCat : config.command = .list [.str "cat"])
    (limited : limitOf config.timeout = .ok (.after 30000000)) : ∃ ready between,
      setUp arguments config oneErrorDesk = (ready, .ok ()) ∧
        lintPath (linterOf Launch.start "1" config) 0 ready "-" =
          (between, .ok ⟨[⟨"x", none⟩], [], [], true⟩) ∧
        between.OnConsole freshDesk.session.host ∧ between.input = [] := by
  obtain ⟨behave, started, copies, -⟩ := start_cat
  obtain ⟨ready, logs, onConsole, input⟩ := setUp_onConsole accepted noDirectory
  have onFresh : ready.OnConsole freshDesk.session.host := onConsole
  obtain ⟨reports, untouched⟩ := run_cat isCat limited (.ofInput ready.input)
    (by rw [input]; decide +kernel) started copies 0
  have heard : (Listening.decoded (Run.Conditions.usual "1").source
      (copying oneError).chunks.flatten).report.freeze = ⟨[⟨"x", none⟩], [], [], true⟩ := by
    have chunks : (copying oneError).chunks.flatten = oneError := by decide +kernel
    rw [chunks]
    cbv
  obtain ⟨between, read, stillOnFresh, nothingLeft⟩ := onFresh.lintPath_input 0 reports untouched
  rw [heard] at read
  exact ⟨ready, between, logs, read, stillOnFresh, nothingLeft⟩

/-- What the two reports are: one error, and nothing. -/
def twoReports : List Result := [("-", ⟨[⟨"x", none⟩], [], [], true⟩), ("-", ⟨[], [], [], true⟩)]

/-- Standard input twice gives the two reports. -/
theorem lintPaths_inputTwice : ∃ config ready left,
    settings oneErrorDesk.session.host inputTwice = .ok config ∧
      setUp inputTwice config oneErrorDesk = (ready, .ok ()) ∧
      lintPaths (linterOf Launch.start "1" config) 0 ready ["-", "-"] = (left, .ok twoReports) := by
  obtain ⟨config, accepted, isCat, limited⟩ := exists_asksForCat
  obtain ⟨ready, between, logs, readOnce, onFresh, nothingLeft⟩ :=
    lintPath_oneError accepted rfl isCat limited
  obtain ⟨behave, started, -, copiesNothing⟩ := start_cat
  obtain ⟨reports, untouched⟩ := run_cat isCat limited (.ofInput between.input)
    (by rw [nothingLeft]; decide +kernel) started copiesNothing 1
  obtain ⟨left, readTwice, -⟩ := onFresh.lintPath_input 1 reports untouched
  refine ⟨config, ready, left, accepted, logs, ?_⟩
  simp only [lintPaths, readOnce, readTwice]
  rfl

/-- The status is that of errors, because the first of two reports for one path has an error. -/
theorem lint_document_inputTwice : ∃ config ready left,
    settings oneErrorDesk.session.host inputTwice = .ok config ∧
      setUp inputTwice config oneErrorDesk = (ready, .ok ()) ∧
      lintPaths (linterOf Launch.start "1" config) 0 ready ["-", "-"] = (left, .ok twoReports) ∧
      inputTwice.json = true ∧
      (lint (linterOf Launch.start "1") inputTwice oneErrorDesk).2 = .status 1 := by
  obtain ⟨config, ready, left, accepted, logs, reported⟩ := lintPaths_inputTwice
  have status := (lint_document (linterOf Launch.start "1") inputTwice oneErrorDesk ready left
    config twoReports accepted logs reported rfl).2.1
  exact ⟨config, ready, left, accepted, logs, reported, rfl,
    status.mpr ⟨_, List.mem_cons_self, List.cons_ne_nil _ _⟩⟩

/-- So it is not so that the document of every call tells of errors if the status does, and holds
every entry: the first report for standard input has an error, and the second one takes its
place. -/
theorem document_conceals_errors : ¬ ∀ (arguments : Arguments) (desk ready left : Desk)
    (config : Config) (results : List Result), settings desk.session.host arguments = .ok config →
      setUp arguments config desk = (ready, .ok ()) →
      lintPaths (linterOf Launch.start "1" config) 0 ready arguments.files = (left, .ok results) →
      arguments.json = true →
        ((lint (linterOf Launch.start "1") arguments desk).2 = .status 1 ↔
            tellsErrors (document results) = true) ∧
          ∀ result ∈ results, ∀ entry, result.2.Holds entry →
            Occurs (document results) result.1 entry := by
  intro always
  obtain ⟨config, ready, left, accepted, logs, reported⟩ := lintPaths_inputTwice
  obtain ⟨-, -, isStatus⟩ := lint_of_lintPaths accepted logs reported
  obtain ⟨agree, -⟩ :=
    always inputTwice oneErrorDesk ready left config twoReports accepted logs reported rfl
  have tells := agree.mp isStatus
  have silent : tellsErrors (document twoReports) = false := by decide +kernel
  rw [silent] at tells
  cases tells

end ReadTwice

end CommandLine

end LintClient
