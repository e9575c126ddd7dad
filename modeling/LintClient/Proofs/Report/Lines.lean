import LintClient.Proofs.Protocol.Coordinates
import LintClient.Report.Unchecked
import Mathlib

/-!
# What printed lines tell

The printed lines of a report have no escapes, and paths, messages and names may hold everything
that divides a line. A line can be read in one way only all the same (`Told.line_injective`). Behind
the path, which is known, the place and the keyword are read from the left, since neither of them
holds a colon that does not end it. Behind the keyword of a variable the line is read from the
right, since nothing is written behind the name that opens a parenthesis but the one that follows
the name.
-/

namespace LintClient

/-- What one line tells: the severity, the start and the text of a diagnostic, or the name and the
scope of a variable and how often it is defined and used. -/
inductive Told where
  | diagnostic (severity : Severity) (start : Option Position) (message : String)
  | symbol (name : String) (isLocal : Bool) (definitions usages : Nat)
deriving DecidableEq, Repr

/-- What the line of a diagnostic tells. -/
def Diagnostic.told (severity : Severity) (diagnostic : Diagnostic) : Told :=
  .diagnostic severity (diagnostic.range.map (·.start)) diagnostic.message

/-- What the line of a variable tells. -/
def Variable.told (entry : Variable) : Told :=
  .symbol entry.name entry.isLocal entry.definitions.length entry.usage.length

/-- What lines tell of the diagnostics of a report, errors first. -/
def LintReport.diagnosticsTold (report : LintReport) : List Told :=
  report.errors.map (Diagnostic.told .error) ++ report.warnings.map (Diagnostic.told .warning)

/-- What lines tell of the variables of a report. -/
def LintReport.variablesTold (report : LintReport) : List Told :=
  report.symbols.map Variable.told

namespace Told

/-- The line that tells it. -/
def line (path : String) : Told → String
  | diagnostic severity start message =>
    diagnosticLine path
      (start.map fun position => (toString (position.line + 1), toString (position.character + 1)))
      severity message
  | symbol name isLocal definitions usages => variableLine path name isLocal definitions usages

/-- Whether it is a diagnostic that is told of. -/
def isDiagnostic : Told → Bool
  | diagnostic .. => true
  | symbol .. => false

/-! ## The parts of a line -/

/-- A start as it is written behind the path, with lines and characters counted from one. -/
def startText : Option Position → List Char
  | none => []
  | some position =>
    ':' :: ((toString (position.line + 1)).toList
      ++ ':' :: (toString (position.character + 1)).toList)

/-- The start of which it is told. -/
def start? : Told → Option Position
  | diagnostic _ start _ => start
  | symbol .. => none

/-- The keyword behind the place. -/
def keyword : Told → String
  | diagnostic severity _ _ => severity.name
  | symbol .. => "variable"

/-- What is written behind the name of a variable, without the parenthesis that opens it. -/
def counts (isLocal : Bool) (definitions usages : Nat) : List Char :=
  (if isLocal then "local" else "global").toList ++ ',' :: ' ' :: ((toString definitions).toList
    ++ ' ' :: ("definitions, ".toList ++ ((toString usages).toList ++ ' ' :: "usages)".toList)))

/-- The rest of the line behind the keyword. -/
def body : Told → List Char
  | diagnostic _ _ message => message.toList
  | symbol name isLocal definitions usages =>
    name.toList ++ ' ' :: '(' :: counts isLocal definitions usages

/-- The characters of a line: the path, where the entry stands, what kind it is of and what it
says. -/
theorem toList_line (path : String) (told : Told) : (told.line path).toList =
    path.toList ++ (startText told.start?
      ++ ':' :: ' ' :: (told.keyword.toList ++ ':' :: ' ' :: told.body)) := by
  have divider : ": ".toList = [':', ' '] := by decide
  cases told with
  | diagnostic severity start message =>
      have colon : ":".toList = [':'] := by decide
      cases start <;>
        simp only [line, diagnosticLine, Option.map_none, Option.map_some, String.toList_append,
          divider, colon, start?, startText, keyword, body, List.append_assoc, List.cons_append,
          List.nil_append]
  | symbol name isLocal definitions usages =>
      have mark : ": variable: ".toList = ':' :: ' ' :: ("variable".toList ++ [':', ' ']) := by
        decide
      have opening : " (".toList = [' ', '('] := by decide
      have comma : ", ".toList = [',', ' '] := by decide
      have defined : " definitions, ".toList = ' ' :: "definitions, ".toList := by decide
      have used : " usages)".toList = ' ' :: "usages)".toList := by decide
      simp only [line, variableLine, start?, startText, keyword, body, counts,
        String.toList_append, mark, opening, comma, defined, used, List.append_assoc,
        List.cons_append, List.nil_append]

end Told

/-! ## Numbers -/

/-- A natural number is written by its decimal digits. -/
theorem toList_toString_nat (number : Nat) : (toString number).toList = Nat.toDigits 10 number := by
  have same : toString number = number.repr := rfl
  rw [same, Nat.repr_eq_ofList_toDigits, String.toList_ofList]

/-- A number is written with digits only. -/
theorem notMem_toString_nat {c : Char} (noDigit : Text.isAsciiDigit c = false) (number : Nat) :
    c ∉ (toString number).toList := by
  rw [toList_toString_nat]
  intro there
  have digit := (Json.digits_toDigits number).digits c there
  rw [noDigit] at digit
  cases digit

/-- An integer is written with digits and a sign only. -/
theorem notMem_toString {c : Char} (noDigit : Text.isAsciiDigit c = false) (noSign : c ≠ '-')
    (value : Int) : c ∉ (toString value).toList := by
  rw [Json.toList_toString, ← toList_toString_nat, List.mem_append, not_or]
  refine ⟨?_, notMem_toString_nat noDigit _⟩
  split <;> simp [noSign]

/-- Integers that are written alike are equal. -/
theorem toString_int_inj {left right : Int}
    (same : (toString left).toList = (toString right).toList) : left = right :=
  Int.repr_inj.mp (String.toList_inj.mp same)

/-- Natural numbers that are written alike are equal. -/
theorem toString_nat_inj {left right : Nat}
    (same : (toString left).toList = (toString right).toList) : left = right :=
  Nat.repr_inj.mp (String.toList_inj.mp same)

namespace Told

/-! ## Reading a line -/

/-- What stands in front of the first of two equal characters is found again. -/
theorem front_inj {c : Char} {left right leftRest rightRest : List Char} (leftFree : c ∉ left)
    (rightFree : c ∉ right) (same : left ++ c :: leftRest = right ++ c :: rightRest) :
    left = right ∧ leftRest = rightRest := by
  induction left generalizing right with
  | nil =>
      cases right with
      | nil => exact ⟨rfl, (List.cons.inj same).2⟩
      | cons d right => exact absurd (List.cons.inj same).1 (List.ne_of_not_mem_cons rightFree)
  | cons d left inductionHypothesis =>
      cases right with
      | nil => exact absurd (List.cons.inj same).1.symm (List.ne_of_not_mem_cons leftFree)
      | cons e right =>
          obtain ⟨rfl, others⟩ := List.cons.inj same
          obtain ⟨rfl, rest⟩ := inductionHypothesis (List.not_mem_of_not_mem_cons leftFree)
            (List.not_mem_of_not_mem_cons rightFree) others
          exact ⟨rfl, rest⟩

/-- What stands behind the last of two equal characters is found again. -/
theorem back_inj {c : Char} {left right leftRest rightRest : List Char} (leftFree : c ∉ leftRest)
    (rightFree : c ∉ rightRest) (same : left ++ c :: leftRest = right ++ c :: rightRest) :
    left = right ∧ leftRest = rightRest := by
  have reversed := congrArg List.reverse same
  simp only [List.reverse_append, List.reverse_cons, List.append_assoc, List.singleton_append]
    at reversed
  obtain ⟨rest, front⟩ := front_inj (by simpa using leftFree) (by simpa using rightFree) reversed
  exact ⟨List.reverse_injective front, List.reverse_injective rest⟩

/-- A blank does not begin an integer that is followed by a colon. -/
theorem blank_ne_toString_append (value : Int) (rest others : List Char) :
    ' ' :: rest ≠ (toString value).toList ++ ':' :: others := by
  intro same
  have noBlank : ' ' ∉ (toString value).toList := notMem_toString (by decide) (by decide) value
  cases written : (toString value).toList with
  | nil =>
      rw [written] at same
      exact absurd (List.cons.inj same).1 (by decide)
  | cons c text =>
      rw [written] at same noBlank
      exact List.ne_of_not_mem_cons noBlank (List.cons.inj same).1

/-- A start is told from what follows it, for only behind a start a blank follows the colon. -/
theorem startText_inj {left right : Option Position} {leftRest rightRest : List Char}
    (same : startText left ++ ':' :: ' ' :: leftRest = startText right ++ ':' :: ' ' :: rightRest) :
    left = right ∧ leftRest = rightRest := by
  have noColon (value : Int) : ':' ∉ (toString value).toList :=
    notMem_toString (by decide) (by decide) value
  cases left with
  | none =>
      cases right with
      | none => exact ⟨rfl, (List.cons.inj (List.cons.inj same).2).2⟩
      | some right =>
          rw [startText, startText, List.nil_append, List.cons_append, List.append_assoc] at same
          exact absurd (List.cons.inj same).2 (blank_ne_toString_append _ _ _)
  | some left =>
      cases right with
      | none =>
          rw [startText, startText, List.nil_append, List.cons_append, List.append_assoc] at same
          exact absurd (List.cons.inj same).2.symm (blank_ne_toString_append _ _ _)
      | some right =>
          simp only [startText, List.cons_append, List.append_assoc] at same
          obtain ⟨lines, behindLines⟩ := front_inj (noColon _) (noColon _) (List.cons.inj same).2
          obtain ⟨characters, behind⟩ := front_inj (noColon _) (noColon _) behindLines
          have line : left.line = right.line := by
            have shifted := toString_int_inj lines
            omega
          have character : left.character = right.character := by
            have shifted := toString_int_inj characters
            omega
          obtain ⟨leftLine, leftCharacter⟩ := left
          subst line character
          exact ⟨rfl, (List.cons.inj behind).2⟩

/-- No keyword has a colon. -/
theorem colon_notMem_keyword (told : Told) : ':' ∉ told.keyword.toList := by
  cases told with
  | diagnostic severity start message =>
      change ':' ∉ severity.name.toList
      cases severity <;> decide
  | symbol name isLocal definitions usages =>
      change ':' ∉ "variable".toList
      decide

/-- What a line says of the counts of a variable opens no parenthesis. -/
theorem parenthesis_notMem_counts (isLocal : Bool) (definitions usages : Nat) :
    '(' ∉ counts isLocal definitions usages := by
  have scope : '(' ∉ (if isLocal then "local" else "global").toList := by
    cases isLocal <;> decide
  have number (count : Nat) : '(' ∉ (toString count).toList :=
    notMem_toString_nat (by decide) count
  simp only [counts, List.mem_append, List.mem_cons, not_or]
  exact ⟨scope, by decide, by decide, number definitions, by decide, by decide, number usages,
    by decide, by decide⟩

/-- The scope and the numbers behind a name are separated by a comma and blanks. -/
theorem counts_inj {leftLocal rightLocal : Bool}
    {leftDefinitions rightDefinitions leftUsages rightUsages : Nat}
    (same : counts leftLocal leftDefinitions leftUsages =
      counts rightLocal rightDefinitions rightUsages) :
    leftLocal = rightLocal ∧ leftDefinitions = rightDefinitions ∧ leftUsages = rightUsages := by
  have noComma (isLocal : Bool) : ',' ∉ (if isLocal then "local" else "global").toList := by
    cases isLocal <;> decide
  have noBlank (count : Nat) : ' ' ∉ (toString count).toList :=
    notMem_toString_nat (by decide) count
  obtain ⟨scope, behindScope⟩ := front_inj (noComma _) (noComma _) same
  obtain ⟨definitions, behindDefinitions⟩ :=
    front_inj (noBlank _) (noBlank _) (List.cons.inj behindScope).2
  obtain ⟨usages, -⟩ :=
    front_inj (noBlank _) (noBlank _) (List.append_cancel_left behindDefinitions)
  refine ⟨?_, toString_nat_inj definitions, toString_nat_inj usages⟩
  revert scope
  cases leftLocal <;> cases rightLocal <;> decide

/-- A name ends at the last opening parenthesis of the line. -/
theorem body_symbol_inj {leftName rightName : String} {leftLocal rightLocal : Bool}
    {leftDefinitions rightDefinitions leftUsages rightUsages : Nat}
    (same : (symbol leftName leftLocal leftDefinitions leftUsages).body =
      (symbol rightName rightLocal rightDefinitions rightUsages).body) :
    symbol leftName leftLocal leftDefinitions leftUsages =
      symbol rightName rightLocal rightDefinitions rightUsages := by
  have split (name : String) (behind : List Char) :
      name.toList ++ ' ' :: '(' :: behind = (name.toList ++ [' ']) ++ '(' :: behind := by simp
  rw [body, body, split, split] at same
  obtain ⟨names, numbers⟩ := back_inj (parenthesis_notMem_counts _ _ _)
    (parenthesis_notMem_counts _ _ _) same
  obtain ⟨rfl, rfl, rfl⟩ := counts_inj numbers
  rw [String.toList_inj.mp (List.append_cancel_right names)]

/-- The name of a severity tells which one it is. -/
theorem severity_inj {left right : Severity} (same : left.name = right.name) : left = right := by
  revert same
  cases left <;> cases right <;> decide

/-- No severity is called a variable. -/
theorem severity_ne_variable (severity : Severity) : severity.name ≠ "variable" := by
  cases severity <;> decide

/-- A line tells one thing only, if the path is known. -/
theorem line_injective (path : String) : Function.Injective (line path) := by
  intro left right same
  have chars := congrArg String.toList same
  rw [toList_line, toList_line] at chars
  obtain ⟨start, behindStart⟩ := startText_inj (List.append_cancel_left chars)
  obtain ⟨keywordText, behindKeyword⟩ :=
    front_inj (colon_notMem_keyword left) (colon_notMem_keyword right) behindStart
  have keyword := String.toList_inj.mp keywordText
  have body := (List.cons.inj behindKeyword).2
  cases left with
  | diagnostic severity leftStart message =>
      cases right with
      | diagnostic other rightStart otherMessage =>
          obtain rfl : leftStart = rightStart := start
          obtain rfl := severity_inj keyword
          obtain rfl := String.toList_inj.mp body
          rfl
      | symbol => exact absurd keyword (severity_ne_variable severity)
  | symbol =>
      cases right with
      | diagnostic other => exact absurd keyword.symm (severity_ne_variable other)
      | symbol => exact body_symbol_inj body

end Told

/-! ## Reports -/

/-- The line of a diagnostic is the line of what is told of it. -/
theorem Diagnostic.line_told (path : String) (severity : Severity) (diagnostic : Diagnostic) :
    (diagnostic.told severity).line path = diagnostic.line path severity := by
  rw [told, Told.line, Option.map_map]
  rfl

/-- The line of a variable is the line of what is told of it. -/
theorem Variable.line_told (path : String) (entry : Variable) :
    entry.told.line path = entry.line path := rfl

namespace LintReport

/-- The lines of a report are those of what is told. -/
theorem lines_eq_map (path : String) (showVariables : Bool) (report : LintReport) :
    report.lines path showVariables = (report.diagnosticsTold
      ++ if showVariables then report.variablesTold else []).map (Told.line path) := by
  have diagnostics (severity : Severity) (among : List Diagnostic) :
      (among.map (Diagnostic.told severity)).map (Told.line path) =
        among.map (Diagnostic.line path severity) := by
    rw [List.map_map]
    exact List.map_congr_left fun diagnostic _ => diagnostic.line_told path severity
  have symbols : report.variablesTold.map (Told.line path) =
      report.symbols.map (Variable.line path) := List.map_map
  rw [lines, diagnosticsTold, List.map_append, List.map_append, diagnostics, diagnostics, ← symbols]
  cases showVariables <;> rfl

/-- What is told of diagnostics is told of diagnostics only. -/
theorem filter_diagnosticsTold (report : LintReport) :
    report.diagnosticsTold.filter Told.isDiagnostic = report.diagnosticsTold := by
  rw [List.filter_eq_self, diagnosticsTold]
  simp only [List.forall_mem_append, List.forall_mem_map]
  exact ⟨fun _ _ => rfl, fun _ _ => rfl⟩

/-- What is told of variables, shown or not, tells of no diagnostic. -/
theorem filter_variablesTold (report : LintReport) (showVariables : Bool) :
    (if showVariables then report.variablesTold else []).filter Told.isDiagnostic = [] := by
  cases showVariables with
  | false => rfl
  | true => exact List.filter_eq_nil_iff.mpr (List.forall_mem_map.mpr fun _ _ => nofun)

/-- The lines of a report tell of its diagnostics and of the variables that are shown, and of
nothing else. -/
theorem lines_eq_iff {path : String} {showVariables : Bool} {first second : LintReport} :
    first.lines path showVariables = second.lines path showVariables ↔
      first.diagnosticsTold = second.diagnosticsTold ∧
        (showVariables = true → first.variablesTold = second.variablesTold) := by
  rw [lines_eq_map, lines_eq_map, (List.map_injective_iff.mpr (Told.line_injective path)).eq_iff]
  constructor
  · intro same
    have diagnostics := congrArg (List.filter Told.isDiagnostic) same
    simp only [List.filter_append, filter_diagnosticsTold, filter_variablesTold,
      List.append_nil] at diagnostics
    refine ⟨diagnostics, ?_⟩
    rintro rfl
    rw [diagnostics] at same
    exact List.append_cancel_left same
  · rintro ⟨diagnostics, symbols⟩
    rw [diagnostics]
    cases showVariables with
    | false => rfl
    | true => rw [symbols rfl]

end LintReport

/-! ## Numbers that are too long -/

/-- Whether the start of a diagnostic, counted from one, is short enough to be written. -/
def Diagnostic.isPrintable (diagnostic : Diagnostic) : Bool :=
  diagnostic.range.all fun range =>
    Json.isWritable (.int (range.start.line + 1))
      && Json.isWritable (.int (range.start.character + 1))

/-- Whether this goes for all diagnostics of a report. -/
def LintReport.isPrintable (report : LintReport) : Bool :=
  report.errors.all Diagnostic.isPrintable && report.warnings.all Diagnostic.isPrintable

namespace Unchecked

/-- An integer is written by its digits, unless it has too many of them. -/
theorem plainText_int (value : Int) : (Json.int value).plainText =
    if Json.isWritable (.int value) then .ok (toString value) else .error .tooManyDigits := by
  rw [Json.plainText]
  cases Json.isWritable (.int value) <;> rfl

/-- A diagnostic has its line unless its start is too long. -/
theorem line_ofChecked (path : String) (severity : Severity) (diagnostic : LintClient.Diagnostic) :
    (Diagnostic.ofChecked diagnostic).line path severity =
      if diagnostic.isPrintable then .ok (diagnostic.line path severity)
      else .error .tooManyDigits := by
  obtain ⟨message, range⟩ := diagnostic
  cases range with
  | none => rfl
  | some range =>
      have next (value : Int) : (Json.int value).successor = .ok (.int (value + 1)) := rfl
      simp only [Diagnostic.line, Diagnostic.ofChecked, Option.map_some, Range.ofChecked,
        Position.ofChecked, next, LintClient.Diagnostic.isPrintable, Option.all_some]
      by_cases line : Json.isWritable (.int (range.start.line + 1)) = true
      · by_cases character : Json.isWritable (.int (range.start.character + 1)) = true
        · simp [bind, Except.bind, pure, Except.pure, plainText_int, line, character, Json.plain,
            LintClient.Diagnostic.line]
        · simp [bind, Except.bind, plainText_int, line, character]
      · simp [bind, Except.bind, plainText_int, line]

/-- Every variable has its line. -/
theorem variable_line_ofChecked (path : String) (entry : LintClient.Variable) :
    (Variable.ofChecked entry).line path = .ok (entry.line path) := by
  simp [Variable.line, Variable.ofChecked, Variable.isLocal, Json.textOf, Json.plain,
    LintClient.Variable.line, LintClient.Variable.isLocal, bind, Except.bind, pure, Except.pure]

/-- A report has its lines unless the start of a diagnostic is too long. -/
theorem lines_ofChecked (path : String) (showVariables : Bool) (report : LintReport) :
    Report.lines path showVariables (report.map .ofChecked .ofChecked) =
      if report.isPrintable then .ok (report.lines path showVariables)
      else .error .tooManyDigits := by
  have diagnostics (severity : Severity) := mapM_map_of_decided (line_ofChecked path severity)
  have symbols : (report.symbols.map Variable.ofChecked).mapM (Variable.line path) =
      .ok (report.symbols.map (LintClient.Variable.line path)) := by
    have decided (entry : LintClient.Variable) : (Variable.ofChecked entry).line path =
        if true then .ok (entry.line path) else .error Json.Misuse.tooManyDigits :=
      variable_line_ofChecked path entry
    simpa using mapM_map_of_decided decided report.symbols
  simp only [Report.lines, LintClient.Report.map, diagnostics, symbols]
  have printable : report.isPrintable = (report.errors.all LintClient.Diagnostic.isPrintable
    && report.warnings.all LintClient.Diagnostic.isPrintable) := rfl
  by_cases errors : report.errors.all LintClient.Diagnostic.isPrintable = true
  · by_cases warnings : report.warnings.all LintClient.Diagnostic.isPrintable = true
    · have all : report.isPrintable = true := by rw [printable, errors, warnings]; rfl
      rw [if_pos errors, if_pos warnings, if_pos all]
      cases showVariables <;> rfl
    · simp [printable, errors, warnings, bind, Except.bind]
  · simp [printable, errors, bind, Except.bind]

end Unchecked

/-! ## Records -/

namespace Protocol

/-- The report of a run that said no more than one line. -/
def lineReport (line : List Char) : LintReport :=
  Report.empty.appendAll (readLine line).entries

/-- A record with lines and columns describes a diagnostic that begins where they begin, counted
from zero. -/
theorem Record.diagnostic_of_located {record : Record} {lines columns : Int × Int}
    (givesLines : record.lines = some lines) (givesColumns : record.columns = some columns) :
    record.diagnostic =
      ⟨record.text, some ⟨⟨lines.1 - 1, columns.1 - 1⟩, ⟨lines.2 - 1, columns.2⟩⟩⟩ := by
  rw [Record.diagnostic, Record.span?, givesLines, givesColumns]
  rfl

/-- The two shifts of a place cancel each other. -/
theorem Record.line_of_located {record : Record} {lines columns : Int × Int}
    (givesLines : record.lines = some lines) (givesColumns : record.columns = some columns)
    (path : String) (severity : Severity) :
    record.diagnostic.line path severity = path ++ ":" ++ toString lines.1 ++ ":"
      ++ toString columns.1 ++ ": " ++ severity.name ++ ": " ++ record.text := by
  rw [record.diagnostic_of_located givesLines givesColumns, Diagnostic.line, Option.map_some]
  dsimp only
  rw [Int.sub_add_cancel, Int.sub_add_cancel]
  rfl

/-- The place of a record that was read is never too long to be printed. -/
theorem isPrintable_of_located {line : List Char} {record : Record} {lines columns : Int × Int}
    (decoded : decodeLine line = .ok record) (givesLines : record.lines = some lines)
    (givesColumns : record.columns = some columns) : record.diagnostic.isPrintable = true := by
  have writable := isWritable_of_readRecord (decodeLine_eq_ok_iff_readRecord.mp decoded)
  rw [record.diagnostic_of_located givesLines givesColumns, Diagnostic.isPrintable, Option.all_some,
    Bool.and_eq_true]
  dsimp only
  rw [Int.sub_add_cancel, Int.sub_add_cancel]
  exact ⟨(writable.lines lines givesLines).1, (writable.columns columns givesColumns).1⟩

/-- The line of a record of a diagnostic gives a report with that diagnostic only. -/
theorem lineReport_of_decodeLine {line : List Char} {record : Record} {severity : Severity}
    (decoded : decodeLine line = .ok record) (isKind : record.kind = severity.name)
    (isDiagnostic : severity = .error ∨ severity = .warning) :
    lineReport line = Report.empty.append
      (if severity = .error then .error record.diagnostic else .warning record.diagnostic) := by
  have sameEntries : (readLine line).entries = record.findings.entries := by
    rw [readLine_of_decodeLine decoded]
  rw [lineReport, sameEntries, Record.findings]
  obtain rfl | rfl := isDiagnostic
  · have isError : record.kind = "error" := isKind
    rw [if_pos isError]
    rfl
  · have isWarning : record.kind = "warning" := isKind
    have noError : record.kind ≠ "error" := by rw [isWarning]; decide
    rw [if_neg noError, if_pos isWarning]
    rfl

end Protocol

/-- The printed lines identify the diagnostics, and the variables if they are shown, whatever the
path, the messages and the names hold; they are printed unless the start of a diagnostic has too
many digits. Diagnostics that were read from records never have, and their lines give the line and
the column where the record begins. -/
theorem lines_identify_reports (path : String) :
    (∀ (showVariables : Bool) (first second : LintReport),
      first.lines path showVariables = second.lines path showVariables ↔
        first.diagnosticsTold = second.diagnosticsTold ∧
          (showVariables = true → first.variablesTold = second.variablesTold)) ∧
    (∀ (showVariables : Bool) (report : LintReport),
      Unchecked.Report.lines path showVariables (report.map .ofChecked .ofChecked) =
        if report.isPrintable then .ok (report.lines path showVariables)
        else .error .tooManyDigits) ∧
    ∀ (line : List Char) (record : Protocol.Record) (severity : Severity)
      (lines columns : Int × Int),
      Protocol.decodeLine line = .ok record → record.kind = severity.name →
      severity = .error ∨ severity = .warning → record.lines = some lines →
      record.columns = some columns → ∀ showVariables : Bool,
        Unchecked.Report.lines path showVariables
            ((Protocol.lineReport line).map .ofChecked .ofChecked) =
          .ok [path ++ ":" ++ toString lines.1 ++ ":" ++ toString columns.1 ++ ": "
            ++ severity.name ++ ": " ++ record.text] := by
  refine ⟨fun _ _ _ => LintReport.lines_eq_iff, Unchecked.lines_ofChecked path, ?_⟩
  intro line record severity lines columns decoded isKind isDiagnostic givesLines givesColumns
    showVariables
  have printable := Protocol.isPrintable_of_located decoded givesLines givesColumns
  have shown := record.line_of_located givesLines givesColumns path severity
  have all : (Protocol.lineReport line).isPrintable = true := by
    rw [Protocol.lineReport_of_decodeLine decoded isKind isDiagnostic]
    obtain rfl | rfl := isDiagnostic <;>
      simp [LintReport.isPrintable, Report.append, Report.empty, printable]
  rw [Unchecked.lines_ofChecked, if_pos all,
    Protocol.lineReport_of_decodeLine decoded isKind isDiagnostic, ← shown]
  obtain rfl | rfl := isDiagnostic <;> cases showVariables <;> rfl

end LintClient
