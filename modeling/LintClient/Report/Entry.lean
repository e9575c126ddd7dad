import LintClient.Report.Position
import LintClient.Text.Case

/-!
# Entries of a report

What a linter run reports: errors and warnings, which may be located, and the variables of the
document with the places where they are defined and used.
-/

namespace LintClient

/-- The weight of a diagnostic. -/
inductive Severity where
  | error
  | warning
  /-- Neither an error nor a warning. -/
  | message
deriving DecidableEq, Repr

/-- The written name of a severity. -/
def Severity.name : Severity -> String
  | .error => "error"
  | .warning => "warning"
  | .message => "message"

/-- A finding about the document, without a range when the linter gave no position. -/
structure Diagnostic where
  message : String
  range : Option Range
deriving DecidableEq, Repr

/-- A diagnostic of the given severity as an object. -/
def Diagnostic.toJson (severity : Severity) (diagnostic : Diagnostic) : Json :=
  .object [
    ("severity", .str severity.name),
    ("message", .str diagnostic.message),
    ("range", diagnostic.range.elim .null Range.toJson)]

/-- A variable with all its definitions and uses in a document. -/
structure Variable where
  name : String
  comment : String
  definitions : List Range
  usage : List Range
deriving DecidableEq, Repr

namespace Variable

/-- The name by which a variable is identified, since case does not matter in names. -/
def ident (entry : Variable) : String :=
  Text.lower entry.name

/-- Whether a variable is local, which its first character tells. -/
def isLocal (entry : Variable) : Bool :=
  entry.name.toList.head? == some '_'

/-- A variable as an object. -/
def toJson (entry : Variable) : Json :=
  .object [
    ("name", .str entry.name),
    ("ident", .str entry.ident),
    ("comment", .str entry.comment),
    ("isLocal", .bool entry.isLocal),
    ("definitions", .list (entry.definitions.map Range.toJson)),
    ("usage", .list (entry.usage.map Range.toJson))]

end Variable

/-- One entry of a report, with diagnostics and variables of the given types. -/
inductive Entry (δ ν : Type) where
  | error (diagnostic : δ)
  | warning (diagnostic : δ)
  | symbol (entry : ν)
deriving DecidableEq, Repr

/-- Change the types of the diagnostic or variable in an entry. -/
def Entry.map {δ ν δ' ν' : Type} (diagnosticOf : δ -> δ') (variableOf : ν -> ν') :
    Entry δ ν -> Entry δ' ν'
  | .error diagnostic => .error (diagnosticOf diagnostic)
  | .warning diagnostic => .warning (diagnosticOf diagnostic)
  | .symbol entry => .symbol (variableOf entry)

end LintClient
