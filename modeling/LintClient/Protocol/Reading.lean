import LintClient.Json.Display
import LintClient.Log.Basic
import LintClient.Protocol.Comment
import LintClient.Protocol.Framing
import LintClient.Protocol.Place
import LintClient.Protocol.Record
import LintClient.Report.Basic

/-!
# What lines say

Each line of linter output is read on its own. It yields at most one entry for the report, counts
as a record, a skipped record or a malformed line, and may give rise to notes. What several lines
say is what each of them says, in order.
-/

namespace LintClient.Protocol

/-- Whether a place belongs to the definitions or to the uses of a variable. -/
inductive PlaceRole where
  | definition
  | usage
deriving DecidableEq, Repr

/-- The written name of a role. -/
def PlaceRole.name : PlaceRole -> String
  | .definition => "definition"
  | .usage => "usage"

/-- Something to note about a line. -/
inductive Note where
  | malformedLine (line : List Char) (fault : LineFault)
  | badPlace (role : PlaceRole) (variableName : String) (item : Json) (fault : PlaceFault)
  | unknownKind (kind : String)
deriving Repr

/-- The log record for a note about the output of `source`. -/
def Note.logRecord (source : String) : Note -> LogRecord
  | .malformedLine line fault =>
    .about source .warning
      ("Failed to parse response: >" ++ String.ofList line ++ "< (" ++ fault.message line ++ ")")
  | .badPlace role variableName item fault =>
    .about source .warning
      ("Skipping bad " ++ role.name ++ " of " ++ variableName ++ ": " ++ item.literal ++ " ("
        ++ fault.message ++ ")")
  | .unknownKind kind => .about source .trace ("Ignoring record type: " ++ kind)

/-- How many lines and places were read with which success. -/
structure Tally where
  records : Nat
  skipped : Nat
  malformed : Nat
  badPlaces : Nat
deriving DecidableEq, Repr

/-- Nothing has been counted. -/
def Tally.zero : Tally := ⟨0, 0, 0, 0⟩

/-- Count two parts of a stream together. -/
def Tally.add (left right : Tally) : Tally :=
  ⟨left.records + right.records, left.skipped + right.skipped, left.malformed + right.malformed,
    left.badPlaces + right.badPlaces⟩

/-- What lines say. -/
structure Findings where
  entries : List LintEntry
  tally : Tally
  notes : List Note
deriving Repr

namespace Findings

/-- Nothing is said. -/
def empty : Findings := ⟨[], .zero, []⟩

/-- What one part says, followed by what another part says. -/
def append (left right : Findings) : Findings :=
  ⟨left.entries ++ right.entries, left.tally.add right.tally, left.notes ++ right.notes⟩

/-- What several parts say, in order. -/
def concat (parts : List Findings) : Findings :=
  parts.foldr append empty

end Findings

/-- The ranges among the items of a list of places, and notes about the other items. -/
def placesOf (role : PlaceRole) (variableName : String) (items : List Json) :
    List Range × List Note :=
  let checked := items.map fun item => (item, placeOf item)
  (checked.filterMap fun (_, place) => place.toOption.map Span.toRange,
    checked.filterMap fun (item, place) =>
      match place with
      | .ok _ => none
      | .error fault => some (.badPlace role variableName item fault))

/-- The diagnostic that a record describes. -/
def Record.diagnostic (record : Record) : Diagnostic :=
  ⟨record.text, record.span?.map Span.toRange⟩

/-- What a record says. -/
def Record.findings (record : Record) : Findings :=
  if record.kind = "error" then ⟨[.error record.diagnostic], ⟨1, 0, 0, 0⟩, []⟩
  else if record.kind = "warning" then ⟨[.warning record.diagnostic], ⟨1, 0, 0, 0⟩, []⟩
  else if record.kind = "variable" then
    let name := record.name.getD ""
    let comment := normalComment (record.comment.getD "")
    let (definitions, definitionNotes) := placesOf .definition name record.definitions
    let (usage, usageNotes) := placesOf .usage name record.usage
    let notes := definitionNotes ++ usageNotes
    ⟨[.symbol ⟨name, comment, definitions, usage⟩], ⟨1, 0, 0, notes.length⟩, notes⟩
  else ⟨[], ⟨0, 1, 0, 0⟩, [.unknownKind record.kind]⟩

/-- What a line says. -/
def readLine (line : List Char) : Findings :=
  match readRecord line with
  | .ok record => record.findings
  | .error fault => ⟨[], ⟨0, 0, 1, 0⟩, [.malformedLine line fault]⟩

/-- What lines say, in order. -/
def readLines (lines : List (List Char)) : Findings :=
  .concat (lines.map readLine)

end LintClient.Protocol
