import LintClient.Json.Access
import LintClient.Report.Lines

/-!
# Reports of unchecked entries

A report built by hand may hold values that no linter run produces: coordinates, texts and names
of any kind are stored as they are given. What can be said of such entries is what the operations
on checked entries would do with those values, and they may fail where they use them.
-/

namespace LintClient.Unchecked

open Json (Misuse)

/-- A position with coordinates of any kind. -/
structure Position where
  line : Json
  character : Json
deriving Repr

/-- A range between positions of any kind. -/
structure Range where
  start : Position
  stop : Position
deriving Repr

/-- A diagnostic with a message of any kind. -/
structure Diagnostic where
  message : Json
  range : Option Range
deriving Repr

/-- A variable with a name and comment of any kind. A place may be missing. -/
structure Variable where
  name : Json
  comment : Json
  definitions : List (Option Range)
  usage : List (Option Range)
deriving Repr

/-- A report of unchecked entries. -/
abbrev Report := LintClient.Report Diagnostic Variable

/-- A checked position among unchecked ones. -/
def Position.ofChecked (position : LintClient.Position) : Position :=
  ⟨.int position.line, .int position.character⟩

/-- A checked range among unchecked ones. -/
def Range.ofChecked (range : LintClient.Range) : Range :=
  ⟨.ofChecked range.start, .ofChecked range.stop⟩

/-- A checked diagnostic among unchecked ones. -/
def Diagnostic.ofChecked (diagnostic : LintClient.Diagnostic) : Diagnostic :=
  ⟨.str diagnostic.message, diagnostic.range.map .ofChecked⟩

/-- A checked variable among unchecked ones. -/
def Variable.ofChecked (entry : LintClient.Variable) : Variable :=
  ⟨.str entry.name, .str entry.comment, entry.definitions.map fun range => some (.ofChecked range),
    entry.usage.map fun range => some (.ofChecked range)⟩

/-- Read a position from an object. -/
def Position.ofJson (value : Json) : Except Misuse Position := do
  let line ← value.field "line"
  let character ← value.field "character"
  pure ⟨line, character⟩

/-- Read a range from an object. -/
def Range.ofJson (value : Json) : Except Misuse Range := do
  let start ← Position.ofJson (← value.field "start")
  let stop ← Position.ofJson (← value.field "end")
  pure ⟨start, stop⟩

/-- Read a range that may be null. -/
def optionalRange (value : Json) : Except Misuse (Option Range) :=
  match value with
  | .null => pure none
  | value => some <$> Range.ofJson value

/-- Read a diagnostic from an object, in which the range may be absent. -/
def Diagnostic.ofJson (value : Json) : Except Misuse Diagnostic :=
  match value with
  | .object members => do
    match Json.member? "message" members with
    | none => throw .unsupported
    | some message =>
      let range ← optionalRange ((Json.member? "range" members).getD .null)
      pure ⟨message, range⟩
  | _ => throw .unsupported

/-- Read a variable from an object, in which everything but the name may be absent. -/
def Variable.ofJson (value : Json) : Except Misuse Variable :=
  match value with
  | .object members => do
    let ranges (key : String) : Except Misuse (List (Option Range)) := do
      let items ← ((Json.member? key members).getD (.list [])).elements
      items.mapM optionalRange
    let definitions ← ranges "definitions"
    let usage ← ranges "usage"
    match Json.member? "name" members with
    | none => throw .unsupported
    | some name =>
      pure ⟨name, (Json.member? "comment" members).getD (.str ""), definitions, usage⟩
  | _ => throw .unsupported

/-- A position as an object. -/
def Position.toJson (position : Position) : Json :=
  .object [("line", position.line), ("character", position.character)]

/-- A range as an object. -/
def Range.toJson (range : Range) : Json :=
  .object [("start", range.start.toJson), ("end", range.stop.toJson)]

/-- A range that must not be missing as an object. -/
def presentRange (range : Option Range) : Except Misuse Json :=
  match range with
  | some range => pure range.toJson
  | none => throw .lacking

/-- A diagnostic of the given severity as an object. -/
def Diagnostic.toJson (severity : Severity) (diagnostic : Diagnostic) : Json :=
  .object [
    ("severity", .str severity.name),
    ("message", diagnostic.message),
    ("range", diagnostic.range.elim .null Range.toJson)]

/-- The name by which a variable is identified. -/
def Variable.ident (entry : Variable) : Except Misuse Text.Source :=
  entry.name.lowered

/-- Whether a variable is local. -/
def Variable.isLocal (entry : Variable) : Except Misuse Bool := do
  let name ← entry.name.textOf
  pure (name.toList.head? == some '_')

/-- A variable as an object. -/
def Variable.toJson (entry : Variable) : Except Misuse Json := do
  let ident ← entry.ident
  let isLocal ← entry.isLocal
  let definitions ← entry.definitions.mapM presentRange
  let usage ← entry.usage.mapM presentRange
  pure (.object [
    ("name", entry.name),
    ("ident", .ofSource ident),
    ("comment", entry.comment),
    ("isLocal", .bool isLocal),
    ("definitions", .list definitions),
    ("usage", .list usage)])

/-- The first variable with the given name, in any case. The names of the variables before it are
looked at in order. -/
def Report.variableNamed? (report : Report) (name : Json) : Except Misuse (Option Variable) := do
  let ident ← name.lowered
  let rec go : List Variable -> Except Misuse (Option Variable)
    | [] => pure none
    | entry :: entries => do
      if (← entry.ident) == ident then pure (some entry) else go entries
  go report.symbols

/-- A report as an object. -/
def Report.toJson (report : Report) : Except Misuse Json := do
  let symbols ← report.symbols.mapM Variable.toJson
  pure (.object [
    ("errors", .list (report.errors.map (Diagnostic.toJson .error))),
    ("warnings", .list (report.warnings.map (Diagnostic.toJson .warning))),
    ("variables", .list symbols)])

/-- The line for a diagnostic. -/
def Diagnostic.line (path : String) (severity : Severity) (diagnostic : Diagnostic) :
    Except Misuse String := do
  let place ← match diagnostic.range with
    | none => pure none
    | some range => do
      let line ← (← range.start.line.successor).plainText
      let column ← (← range.start.character.successor).plainText
      pure (some (line, column))
  pure (diagnosticLine path place severity diagnostic.message.plain)

/-- The line for a variable. -/
def Variable.line (path : String) (entry : Variable) : Except Misuse String := do
  let isLocal ← entry.isLocal
  pure (variableLine path entry.name.plain isLocal entry.definitions.length entry.usage.length)

/-- The lines for a whole report. -/
def Report.lines (path : String) (showVariables : Bool) (report : Report) :
    Except Misuse (List String) := do
  let errors ← report.errors.mapM (Diagnostic.line path .error)
  let warnings ← report.warnings.mapM (Diagnostic.line path .warning)
  let symbols ← if showVariables then report.symbols.mapM (Variable.line path) else pure []
  pure (errors ++ warnings ++ symbols)

/-- Whether two positions have equal coordinates. -/
def Position.equal (left right : Position) : Bool :=
  left.line.equal right.line && left.character.equal right.character

/-- Whether two ranges have equal ends. -/
def Range.equal (left right : Range) : Bool :=
  left.start.equal right.start && left.stop.equal right.stop

/-- Whether two ranges are equal or both missing. -/
def equalOptional : Option Range -> Option Range -> Bool
  | none, none => true
  | some left, some right => left.equal right
  | _, _ => false

/-- Whether two lists hold equal elements at equal places. -/
def equalAll {α : Type} (equal : α -> α -> Bool) (left right : List α) : Bool :=
  left.length == right.length && (left.zip right).all fun pair => equal pair.1 pair.2

/-- Whether two diagnostics of one severity are equal. -/
def Diagnostic.equal (left right : Diagnostic) : Bool :=
  left.message.equal right.message && equalOptional left.range right.range

/-- Whether two variables are equal. -/
def Variable.equal (left right : Variable) : Bool :=
  left.name.equal right.name && left.comment.equal right.comment
    && equalAll equalOptional left.definitions right.definitions
    && equalAll equalOptional left.usage right.usage

/-- Whether two reports hold equal entries and are equally far: a frozen report differs from one
that is still open. -/
def Report.equal (left right : Report) : Bool :=
  left.frozen == right.frozen
    && equalAll Diagnostic.equal left.errors right.errors
    && equalAll Diagnostic.equal left.warnings right.warnings
    && equalAll Variable.equal left.symbols right.symbols

end LintClient.Unchecked
