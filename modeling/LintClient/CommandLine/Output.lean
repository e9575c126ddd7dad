import LintClient.Json.Printer
import LintClient.Report.Lines

/-!
# What the command line prints

The reports of a command line, each with the path that it belongs to, are printed as lines of text
or as one JSON document. The exit status tells whether there was an error in any of them.
-/

namespace LintClient.CommandLine

/-- The report for a path. -/
abbrev Result := String × LintReport

/-- The lines of all reports, path by path. -/
def textLines (showVariables : Bool) (results : List Result) : List String :=
  results.flatMap fun (path, report) => report.lines path showVariables

/-- The document of all reports: one member for each path. Of several reports for a path the last
one counts. -/
def document (results : List Result) : Json :=
  .object (Json.membersOf (results.map fun (path, report) => (path, report.toJson)))

/-- A line with its ending. -/
def endLine (line : String) : String := line ++ "\n"

/-- What is printed for the reports. -/
def printed (asJson showVariables : Bool) (results : List Result) : String :=
  if asJson then endLine (Json.print .indented (document results))
  else String.join ((textLines showVariables results).map endLine)

/-- Whether there is an error in any of the reports. -/
def hasErrors (results : List Result) : Bool :=
  results.any fun (_, report) => !report.errors.isEmpty

/-- The exit status for reports. -/
def exitStatus (results : List Result) : Nat :=
  if hasErrors results then 1 else 0

end LintClient.CommandLine
