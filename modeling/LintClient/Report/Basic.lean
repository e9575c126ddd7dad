import LintClient.Report.Entry

/-!
# Reports

The result of a linter run. A report is filled while output arrives and frozen when the run ends;
entries of each kind keep the order of their arrival, and a frozen report takes no more of them.
-/

namespace LintClient

/-- What a linter run reported, with diagnostics and variables of the given types. -/
structure Report (δ ν : Type) where
  errors : List δ
  warnings : List δ
  symbols : List ν
  frozen : Bool
deriving DecidableEq, Repr

namespace Report

variable {δ ν δ' ν' : Type}

/-- The report of a run that has said nothing yet. -/
def empty : Report δ ν := ⟨[], [], [], false⟩

/-- Append an entry to the entries of its kind. -/
def append (report : Report δ ν) : Entry δ ν -> Report δ ν
  | .error diagnostic => { report with errors := report.errors ++ [diagnostic] }
  | .warning diagnostic => { report with warnings := report.warnings ++ [diagnostic] }
  | .symbol entry => { report with symbols := report.symbols ++ [entry] }

/-- The errors among entries. -/
def errorsOf (entries : List (Entry δ ν)) : List δ :=
  entries.filterMap fun
    | .error diagnostic => some diagnostic
    | _ => none

/-- The warnings among entries. -/
def warningsOf (entries : List (Entry δ ν)) : List δ :=
  entries.filterMap fun
    | .warning diagnostic => some diagnostic
    | _ => none

/-- The variables among entries. -/
def variablesOf (entries : List (Entry δ ν)) : List ν :=
  entries.filterMap fun
    | .symbol entry => some entry
    | _ => none

/-- Append entries in order. -/
def appendAll (report : Report δ ν) (entries : List (Entry δ ν)) : Report δ ν :=
  { report with
    errors := report.errors ++ errorsOf entries
    warnings := report.warnings ++ warningsOf entries
    symbols := report.symbols ++ variablesOf entries }

/-- The refusal of an entry by a report that is already frozen. -/
inductive Refused where
  | frozen
deriving DecidableEq, Repr

/-- The wording of the refusal. -/
def Refused.message : Refused -> String
  | .frozen => "ParseInfo is frozen; the run has already finished"

/-- Add an entry, unless the report is frozen. -/
def add (report : Report δ ν) (entry : Entry δ ν) : Except Refused (Report δ ν) :=
  if report.frozen then .error .frozen else .ok (report.append entry)

/-- End the report. -/
def freeze (report : Report δ ν) : Report δ ν :=
  { report with frozen := true }

/-- The number of entries of each kind in words. -/
def summary (report : Report δ ν) : String :=
  toString report.errors.length ++ " errors, " ++ toString report.warnings.length
    ++ " warnings, " ++ toString report.symbols.length ++ " variables"

/-- Change the types of the diagnostics and variables in a report. -/
def map (diagnosticOf : δ -> δ') (variableOf : ν -> ν') (report : Report δ ν) : Report δ' ν' :=
  ⟨report.errors.map diagnosticOf, report.warnings.map diagnosticOf,
    report.symbols.map variableOf, report.frozen⟩

end Report

/-- The report of a linter run. -/
abbrev LintReport := Report Diagnostic Variable

/-- An entry of the report of a linter run. -/
abbrev LintEntry := Entry Diagnostic Variable

namespace LintReport

/-- The first variable with the given name, in any case. -/
def variableNamed? (report : LintReport) (name : String) : Option Variable :=
  report.symbols.find? fun entry => entry.ident == Text.lower name

/-- A report as an object. -/
def toJson (report : LintReport) : Json :=
  .object [
    ("errors", .list (report.errors.map (Diagnostic.toJson .error))),
    ("warnings", .list (report.warnings.map (Diagnostic.toJson .warning))),
    ("variables", .list (report.symbols.map Variable.toJson))]

end LintReport

end LintClient
