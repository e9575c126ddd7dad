import LintClient.Proofs.Json.Written
import LintClient.Proofs.Protocol.Record
import LintClient.Protocol.Reading

/-!
# Records of entries

How a linter puts an entry of a report into a record, and that the record says the entry
(`findings_of_entry`). The ranges of an entry must be well formed, and a variable must have a name
and a comment without marks, since these are all that a report can be given by records.
-/

namespace LintClient.Protocol

/-! ## Ranges -/

/-- A span denotes a range exactly if the range is well formed. -/
theorem Span.denotes_ofRange_iff {range : Range} :
    (Span.ofRange range).Denotes ↔ range.WellFormed := by
  constructor
  · rintro ⟨firstLine, lastLine, firstColumn, lastColumn, ordered⟩
    simp only [ofRange] at firstLine lastLine firstColumn lastColumn ordered
    refine ⟨⟨?_, ?_⟩, ⟨?_, ?_⟩, ?_⟩
    · omega
    · omega
    · omega
    · omega
    · unfold Position.NotAfter
      omega
  · rintro ⟨⟨startLine, startCharacter⟩, ⟨stopLine, stopCharacter⟩, ordered⟩
    unfold Position.NotAfter at ordered
    constructor <;> simp only [ofRange] <;> omega

/-- A range is found again in its span. -/
theorem Span.toRange_ofRange (range : Range) : (Span.ofRange range).toRange = range := by
  obtain ⟨⟨startLine, startCharacter⟩, stopLine, stopCharacter⟩ := range
  simp [ofRange, toRange]

/-- Two numbers as a list. -/
def pairJson (numbers : Int × Int) : Json :=
  .list [.int numbers.1, .int numbers.2]

/-- The members that give a range. -/
def rangeMembers (range : Range) : List (String × Json) :=
  let span := Span.ofRange range
  [("line", pairJson span.lines), ("column", pairJson span.columns)]

/-- A pair of integers is read back. -/
theorem requiredPair_pairJson (otherKind : FieldFault) (numbers : Int × Int) :
    requiredPair otherKind (some (pairJson numbers)) = .ok numbers := rfl

/-- An object with the members of a well-formed range is the place of the range. -/
theorem placeOf_rangeMembers {range : Range} (wellFormed : range.WellFormed) :
    placeOf (.object (rangeMembers range)) = .ok (Span.ofRange range) := by
  have sound := Span.fault?_eq_none_iff.mpr (Span.denotes_ofRange_iff.mpr wellFormed)
  have lines : Json.member? "line" (rangeMembers range) =
      some (pairJson (Span.ofRange range).lines) := rfl
  have columns : Json.member? "column" (rangeMembers range) =
      some (pairJson (Span.ofRange range).columns) := rfl
  simp only [placeOf, lines, columns, requiredPair_pairJson, Except.map, Checked.apply, sound]

/-- The ranges of places are found again, without a note. -/
theorem placesOf_ranges (role : PlaceRole) (name : String) {ranges : List Range}
    (wellFormed : ∀ range ∈ ranges, range.WellFormed) :
    placesOf role name (ranges.map fun range => .object (rangeMembers range)) = (ranges, []) := by
  have checked : (ranges.map fun range => Json.object (rangeMembers range)).map
      (fun item => (item, placeOf item)) =
        ranges.map fun range => (Json.object (rangeMembers range), .ok (Span.ofRange range)) := by
    rw [List.map_map]
    refine List.map_congr_left fun range there => ?_
    rw [Function.comp_apply, placeOf_rangeMembers (wellFormed range there)]
  simp only [placesOf, checked]
  simp [List.filterMap_map, Except.toOption, Span.toRange_ofRange]

/-! ## Comments -/

/-- A comment in its normal form: no blanks around it and no mark in front. -/
structure PlainComment (comment : String) : Prop where
  trimmed : Text.trim comment.toList = comment.toList
  notLine : ¬ "//".toList <+: comment.toList
  notBlock : ¬ "/*".toList <+: comment.toList

/-- A comment in its normal form is kept as it is. -/
theorem normalComment_of_plain {comment : String} (plain : PlainComment comment) :
    normalComment comment = comment := by
  rw [normalComment, commentText, plain.trimmed]
  split
  · next rest same => exact absurd ⟨rest, same.symm⟩ plain.notLine
  · next rest same => exact absurd ⟨rest, same.symm⟩ plain.notBlock
  · exact String.ofList_toList

/-! ## Entries -/

/-- An entry that a record can carry. -/
def Recordable : LintEntry → Prop
  | .error diagnostic | .warning diagnostic => ∀ range ∈ diagnostic.range, range.WellFormed
  | .symbol entry => entry.name ≠ "" ∧ PlainComment entry.comment ∧
      ∀ range ∈ entry.definitions ++ entry.usage, range.WellFormed

/-- A diagnostic as the object of a record. -/
def diagnosticRecord (kind : String) (diagnostic : Diagnostic) : Json :=
  .object (("type", .str kind) :: ("error", .str diagnostic.message) ::
    diagnostic.range.elim [] rangeMembers)

/-- A variable as the object of a record. -/
def variableRecord (entry : Variable) : Json :=
  .object [("type", .str "variable"), ("variable", .str entry.name),
    ("comment", .str entry.comment),
    ("definitions", .list (entry.definitions.map fun range => .object (rangeMembers range))),
    ("usage", .list (entry.usage.map fun range => .object (rangeMembers range)))]

/-- An entry as the object of a record. -/
def entryRecord : LintEntry → Json
  | .error diagnostic => diagnosticRecord "error" diagnostic
  | .warning diagnostic => diagnosticRecord "warning" diagnostic
  | .symbol entry => variableRecord entry

/-- The record that is read of a diagnostic. -/
def recordOfDiagnostic (kind : String) (diagnostic : Diagnostic) : Record :=
  ⟨kind, some diagnostic.message, none, none, none, [], [],
    diagnostic.range.map fun range => (Span.ofRange range).lines,
    diagnostic.range.map fun range => (Span.ofRange range).columns⟩

/-- The record that is read of a variable. -/
def recordOfVariable (entry : Variable) : Record :=
  ⟨"variable", none, none, some entry.name, some entry.comment,
    entry.usage.map fun range => .object (rangeMembers range),
    entry.definitions.map fun range => .object (rangeMembers range), none, none⟩

/-- The record that is written for a diagnostic is read back, if its range is well formed. -/
theorem recordOf_diagnosticRecord {kind : String} (notVariable : kind ≠ "variable")
    {diagnostic : Diagnostic} (wellFormed : ∀ range ∈ diagnostic.range, range.WellFormed) :
    recordOf (diagnosticRecord kind diagnostic) = .ok (recordOfDiagnostic kind diagnostic) := by
  have sensible : (recordOfDiagnostic kind diagnostic).Sensible := by
    refine ⟨fun lines columns sameLines sameColumns => ?_, fun isVariable =>
      absurd isVariable notVariable⟩
    obtain ⟨range, there, rfl⟩ := Option.map_eq_some_iff.mp sameLines
    rw [recordOfDiagnostic, there] at sameColumns
    obtain rfl := Option.some.inj sameColumns
    exact Span.denotes_ofRange_iff.mpr (wellFormed range there)
  have makes : recordOfMembers (("type", .str kind) :: ("error", .str diagnostic.message) ::
      diagnostic.range.elim [] rangeMembers) = .ok (recordOfDiagnostic kind diagnostic) := by
    obtain ⟨message, range⟩ := diagnostic
    cases range <;> rfl
  simp only [diagnosticRecord, recordOf, makes, Record.fault?_eq_none_iff.mpr sensible]

/-- The record that is written for a variable is read back, if the variable has a name. -/
theorem recordOf_variableRecord {entry : Variable} (named : entry.name ≠ "") :
    recordOf (variableRecord entry) = .ok (recordOfVariable entry) := by
  have sensible : (recordOfVariable entry).Sensible :=
    ⟨nofun, fun _ => ⟨entry.name, rfl, named⟩⟩
  have makes : recordOfMembers [("type", .str "variable"), ("variable", .str entry.name),
      ("comment", .str entry.comment),
      ("definitions", .list (entry.definitions.map fun range => .object (rangeMembers range))),
      ("usage", .list (entry.usage.map fun range => .object (rangeMembers range)))] =
        .ok (recordOfVariable entry) := rfl
  simp only [variableRecord, recordOf, makes, Record.fault?_eq_none_iff.mpr sensible]

/-- The diagnostic of its record is the one that was recorded. -/
theorem diagnostic_recordOfDiagnostic (kind : String) (diagnostic : Diagnostic) :
    (recordOfDiagnostic kind diagnostic).diagnostic = diagnostic := by
  obtain ⟨message, range⟩ := diagnostic
  have text : (recordOfDiagnostic kind ⟨message, range⟩).text = message := by
    by_cases empty : message = "" <;> simp [Record.text, recordOfDiagnostic, empty]
  have span : (recordOfDiagnostic kind ⟨message, range⟩).span?.map Span.toRange = range := by
    cases range with
    | none => rfl
    | some range => exact congrArg some (Span.toRange_ofRange range)
  rw [Record.diagnostic, text, span]

/-- The record of an entry says the entry and nothing else. -/
theorem findings_of_entry {entry : LintEntry} (recordable : Recordable entry) :
    ∃ record, recordOf (entryRecord entry) = .ok record ∧
      record.findings = ⟨[entry], ⟨1, 0, 0, 0⟩, []⟩ := by
  cases entry with
  | error diagnostic =>
      refine ⟨_, recordOf_diagnosticRecord (by decide) recordable, ?_⟩
      have kind : (recordOfDiagnostic "error" diagnostic).kind = "error" := rfl
      rw [Record.findings, if_pos kind, diagnostic_recordOfDiagnostic]
  | warning diagnostic =>
      refine ⟨_, recordOf_diagnosticRecord (by decide) recordable, ?_⟩
      have kind : (recordOfDiagnostic "warning" diagnostic).kind = "warning" := rfl
      have notError : (recordOfDiagnostic "warning" diagnostic).kind ≠ "error" := by
        rw [kind]
        decide
      rw [Record.findings, if_neg notError, if_pos kind, diagnostic_recordOfDiagnostic]
  | symbol entry =>
      obtain ⟨named, plain, wellFormed⟩ := recordable
      obtain ⟨definitions, usage⟩ := List.forall_mem_append.mp wellFormed
      refine ⟨_, recordOf_variableRecord named, ?_⟩
      simp [Record.findings, recordOfVariable, placesOf_ranges _ _ definitions,
        placesOf_ranges _ _ usage, normalComment_of_plain plain]

/-! ## Lines of entries -/

section Readable

variable {depth enclosing : Nat}

/-- A pair is read back from its written form. -/
theorem readable_pairJson (deep : enclosing + 1 ≤ depth) (numbers : Int × Int) :
    Json.Readable ⟨depth, none, false⟩ enclosing (pairJson numbers) := by
  refine .list (Nat.le_of_succ_le deep) ?_
  simp only [List.forall_mem_cons, List.not_mem_nil, false_implies, implies_true, and_true]
  exact ⟨.int deep nofun, .int deep nofun⟩

/-- The members of a range are read back from their written forms. -/
theorem readable_rangeMembers (deep : enclosing + 1 ≤ depth) (range : Range) :
    ∀ member ∈ rangeMembers range, Json.Readable ⟨depth, none, false⟩ enclosing member.2 := by
  simp only [rangeMembers, List.forall_mem_cons, List.not_mem_nil, false_implies, implies_true,
    and_true]
  exact ⟨readable_pairJson deep _, readable_pairJson deep _⟩

/-- A list of ranges is read back from its written form. -/
theorem readable_ranges (deep : enclosing + 3 ≤ depth) (ranges : List Range) :
    Json.Readable ⟨depth, none, false⟩ enclosing
      (.list (ranges.map fun range => .object (rangeMembers range))) := by
  have shallow : enclosing ≤ depth := by omega
  refine .list shallow ?_
  rw [List.forall_mem_map]
  intro range _
  have within : enclosing + 1 ≤ depth := by omega
  have different : ["line", "column"].Nodup := by decide
  exact .object within different (readable_rangeMembers deep range)

/-- The record of a diagnostic is read back from its written form. -/
theorem readable_diagnosticRecord (deep : enclosing + 2 ≤ depth) (kind : String)
    (diagnostic : Diagnostic) :
    Json.Readable ⟨depth, none, false⟩ enclosing (diagnosticRecord kind diagnostic) := by
  have shallow : enclosing ≤ depth := by omega
  have within : enclosing + 1 ≤ depth := by omega
  obtain ⟨message, range⟩ := diagnostic
  refine .object shallow ?different ?readable
  case different =>
    cases range with
    | none =>
        have different : ["type", "error"].Nodup := by decide
        exact different
    | some range =>
        have different : ["type", "error", "line", "column"].Nodup := by decide
        exact different
  case readable =>
    rw [List.forall_mem_cons, List.forall_mem_cons]
    refine ⟨.str within kind, .str within message, ?_⟩
    cases range with
    | none => exact nofun
    | some range => exact readable_rangeMembers deep range

/-- The record of a variable is read back from its written form. -/
theorem readable_variableRecord (deep : enclosing + 4 ≤ depth) (entry : Variable) :
    Json.Readable ⟨depth, none, false⟩ enclosing (variableRecord entry) := by
  have shallow : enclosing ≤ depth := by omega
  have within : enclosing + 1 ≤ depth := by omega
  have room : enclosing + 1 + 3 ≤ depth := by omega
  have different : ["type", "variable", "comment", "definitions", "usage"].Nodup := by decide
  refine .object shallow different ?_
  simp only [List.forall_mem_cons, List.not_mem_nil, false_implies, implies_true, and_true]
  exact ⟨.str within _, .str within _, .str within _, readable_ranges room _,
    readable_ranges room _⟩

end Readable

/-- The record of an entry is a value that is read back from its written form. -/
theorem readable_entryRecord (entry : LintEntry) :
    Json.Readable ⟨Json.Line.nestingLimit, none, false⟩ 0 (entryRecord entry) := by
  cases entry with
  | error diagnostic => exact readable_diagnosticRecord (by decide) "error" diagnostic
  | warning diagnostic => exact readable_diagnosticRecord (by decide) "warning" diagnostic
  | symbol entry => exact readable_variableRecord (by decide) entry

/-- A line with the record of an entry says the entry, and it is a single line. -/
theorem readLine_of_entry {entry : LintEntry} (recordable : Recordable entry) {asciiOnly : Bool}
    {line : List Char} (isWritten : Json.writtenLine? asciiOnly (entryRecord entry) = some line) :
    readLine line = ⟨[entry], ⟨1, 0, 0, 0⟩, []⟩ ∧ line ≠ [] ∧ Json.OnLine line := by
  obtain ⟨isJson, onLine⟩ := (readable_entryRecord entry).document_writtenLine isWritten
  obtain ⟨record, made, found⟩ := findings_of_entry recordable
  refine ⟨?_, onLine⟩
  simp only [readLine, readRecord, readRecordWithin, isJson, made, found]

end LintClient.Protocol
