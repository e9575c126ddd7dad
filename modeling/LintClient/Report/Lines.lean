import LintClient.Report.Basic

/-!
# Reports as lines of text

The form in which the command line prints a report: one line for each diagnostic, errors first,
with positions counted from one, and on request one line for each variable.
-/

namespace LintClient

/-- The line for a diagnostic, given its position as already worded. -/
def diagnosticLine (path : String) (place : Option (String × String)) (severity : Severity)
    (message : String) : String :=
  let location := match place with
    | some (line, column) => path ++ ":" ++ line ++ ":" ++ column
    | none => path
  location ++ ": " ++ severity.name ++ ": " ++ message

/-- The line for a variable, given its name as already worded. -/
def variableLine (path name : String) (isLocal : Bool) (definitions usages : Nat) : String :=
  path ++ ": variable: " ++ name ++ " (" ++ (if isLocal then "local" else "global") ++ ", "
    ++ toString definitions ++ " definitions, " ++ toString usages ++ " usages)"

/-- The line for a diagnostic of a document. -/
def Diagnostic.line (path : String) (severity : Severity) (diagnostic : Diagnostic) : String :=
  diagnosticLine path
    (diagnostic.range.map fun range =>
      (toString (range.start.line + 1), toString (range.start.character + 1)))
    severity diagnostic.message

/-- The line for a variable of a document. -/
def Variable.line (path : String) (entry : Variable) : String :=
  variableLine path entry.name entry.isLocal entry.definitions.length entry.usage.length

/-- The lines for a whole report. -/
def LintReport.lines (path : String) (showVariables : Bool) (report : LintReport) :
    List String :=
  report.errors.map (Diagnostic.line path .error)
    ++ report.warnings.map (Diagnostic.line path .warning)
    ++ if showVariables then report.symbols.map (Variable.line path) else []

end LintClient
