import LintClient.Json.Access
import LintClient.Report.Basic
import Mathlib.Logic.Function.Basic

/-!
# Reading reports back

What an object says about a report, read by the names of its members and by nothing else. Every part
of a report is read back from the object that is made of it (`LintReport.ofJson?_toJson`), and so
different parts have different objects. Whether a report is frozen is not written; one that is read
is complete.
-/

namespace LintClient

namespace Json

/-- The value of a member of an object. -/
def fieldOf? (value : Json) (name : String) : Option Json :=
  (value.field name).toOption

/-- The integer that a value is. -/
def int? : Json → Option Int
  | .int number => some number
  | _ => none

/-- The text that a value is. -/
def str? : Json → Option String
  | .str text => some text
  | _ => none

/-- What the items of a list describe. -/
def listOf? {α : Type} (describes : Json → Option α) : Json → Option (List α)
  | .list items => items.mapM describes
  | _ => none

/-- The field of an object is the first member of its name. -/
theorem fieldOf?_object (members : List (String × Json)) (name : String) :
    (Json.object members).fieldOf? name = members.lookup name := by
  simp only [fieldOf?, field, members?, member?]
  cases members.lookup name <;> rfl

/-- Items that are each read back are read back as a list. -/
theorem listOf?_map {α : Type} {describes : Json → Option α} {write : α → Json} {items : List α}
    (reads : ∀ item ∈ items, describes (write item) = some item) :
    listOf? describes (.list (items.map write)) = some items := by
  rw [listOf?]
  induction items with
  | nil => rfl
  | cons item items inductionHypothesis =>
      obtain ⟨first, others⟩ := List.forall_mem_cons.mp reads
      rw [List.map_cons, List.mapM_cons, first, inductionHypothesis others]
      rfl

end Json

/-! ## Places -/

/-- The position that an object describes. -/
def Position.ofJson? (value : Json) : Option Position := do
  let line ← value.fieldOf? "line"
  let character ← value.fieldOf? "character"
  return ⟨← line.int?, ← character.int?⟩

/-- A position is read back from what is written of it. -/
theorem Position.ofJson?_toJson (position : Position) :
    Position.ofJson? position.toJson = some position := by
  simp [ofJson?, toJson, Json.fieldOf?_object, Json.int?, List.lookup_cons]

/-- The range that an object describes. -/
def Range.ofJson? (value : Json) : Option Range := do
  let start ← value.fieldOf? "start"
  let stop ← value.fieldOf? "end"
  return ⟨← Position.ofJson? start, ← Position.ofJson? stop⟩

/-- A range is read back from what is written of it. -/
theorem Range.ofJson?_toJson (range : Range) : Range.ofJson? range.toJson = some range := by
  simp [ofJson?, toJson, Json.fieldOf?_object, List.lookup_cons, Position.ofJson?_toJson]

/-- The range that a value describes, which is none if the value is null. -/
def Range.optionOfJson? : Json → Option (Option Range)
  | .null => some none
  | value => (Range.ofJson? value).map some

/-- A range that may be missing is read back from what is written of it. -/
theorem Range.optionOfJson?_elim (range : Option Range) :
    Range.optionOfJson? (range.elim .null Range.toJson) = some range := by
  cases range with
  | none => rfl
  | some range =>
      have read : (Range.ofJson? range.toJson).map some = some (some range) := by
        rw [Range.ofJson?_toJson, Option.map_some]
      exact read

/-! ## Entries -/

/-- The diagnostic that an object of its severity describes. -/
def Diagnostic.ofJson? (severity : Severity) (value : Json) : Option Diagnostic := do
  let name ← value.fieldOf? "severity"
  let message ← value.fieldOf? "message"
  let range ← value.fieldOf? "range"
  if name.str? = some severity.name then
    return ⟨← message.str?, ← Range.optionOfJson? range⟩
  else none

/-- A diagnostic is read back, under its severity, from what is written of it. -/
theorem Diagnostic.ofJson?_toJson (severity : Severity) (diagnostic : Diagnostic) :
    Diagnostic.ofJson? severity (diagnostic.toJson severity) = some diagnostic := by
  simp [ofJson?, toJson, Json.fieldOf?_object, Json.str?, List.lookup_cons,
    Range.optionOfJson?_elim]

/-- Different diagnostics of a severity have different objects. -/
theorem Diagnostic.toJson_injective (severity : Severity) :
    Function.Injective (Diagnostic.toJson severity) := by
  intro left right same
  have read := congrArg (Diagnostic.ofJson? severity) same
  rwa [ofJson?_toJson, ofJson?_toJson, Option.some.injEq] at read

/-- The variable that an object describes. -/
def Variable.ofJson? (value : Json) : Option Variable := do
  let name ← value.fieldOf? "name"
  let comment ← value.fieldOf? "comment"
  let definitions ← value.fieldOf? "definitions"
  let usage ← value.fieldOf? "usage"
  return ⟨← name.str?, ← comment.str?, ← definitions.listOf? Range.ofJson?,
    ← usage.listOf? Range.ofJson?⟩

/-- A variable is read back from what is written of it. -/
theorem Variable.ofJson?_toJson (entry : Variable) :
    Variable.ofJson? entry.toJson = some entry := by
  have ranges : ∀ found : List Range,
      Json.listOf? Range.ofJson? (.list (found.map Range.toJson)) = some found :=
    fun found => Json.listOf?_map fun range _ => range.ofJson?_toJson
  simp [ofJson?, toJson, Json.fieldOf?_object, Json.str?, List.lookup_cons, ranges]

/-- Different variables have different objects. -/
theorem Variable.toJson_injective : Function.Injective Variable.toJson := by
  intro left right same
  have read := congrArg Variable.ofJson? same
  rwa [ofJson?_toJson, ofJson?_toJson, Option.some.injEq] at read

/-! ## Reports -/

/-- The complete report that an object describes. -/
def LintReport.ofJson? (value : Json) : Option LintReport := do
  let errors ← value.fieldOf? "errors"
  let warnings ← value.fieldOf? "warnings"
  let symbols ← value.fieldOf? "variables"
  return ⟨← errors.listOf? (Diagnostic.ofJson? .error),
    ← warnings.listOf? (Diagnostic.ofJson? .warning), ← symbols.listOf? Variable.ofJson?, true⟩

/-- A report is read back from its object. -/
theorem LintReport.ofJson?_toJson (report : LintReport) :
    LintReport.ofJson? report.toJson = some report.freeze := by
  have diagnostics : ∀ severity (found : List Diagnostic),
      Json.listOf? (Diagnostic.ofJson? severity) (.list (found.map (Diagnostic.toJson severity))) =
        some found :=
    fun severity found => Json.listOf?_map fun diagnostic _ => diagnostic.ofJson?_toJson severity
  have symbols : Json.listOf? Variable.ofJson? (.list (report.symbols.map Variable.toJson)) =
      some report.symbols :=
    Json.listOf?_map fun entry _ => entry.ofJson?_toJson
  simp [ofJson?, toJson, Json.fieldOf?_object, List.lookup_cons, diagnostics, symbols,
    Report.freeze]

end LintClient
