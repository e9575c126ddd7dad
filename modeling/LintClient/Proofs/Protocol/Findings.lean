import LintClient.Proofs.Protocol.Rendering
import LintClient.Proofs.Text.Pieces
import Mathlib.Data.Set.Function

/-!
# What records are made of

The entries that lines give are the entries of the records among them, in order
(`entries_readLines`). What a sensible record describes is sound: its ranges are well formed, and a
variable has a name and a trimmed comment. The check of spans lets exactly those pass that denote a
well-formed range (`Span.bijOn_toRange`).
-/

namespace LintClient.Protocol

/-! ## Spans -/

/-- A span is found again in its range. -/
theorem Span.ofRange_toRange (span : Span) : Span.ofRange span.toRange = span := by
  obtain ⟨⟨firstLine, lastLine⟩, firstColumn, lastColumn⟩ := span
  simp [ofRange, toRange]

/-- A span passes the check exactly if its range is well formed. -/
theorem Span.fault?_eq_none_iff_wellFormed {span : Span} :
    span.fault? = none ↔ span.toRange.WellFormed := by
  rw [fault?_eq_none_iff, ← denotes_ofRange_iff, ofRange_toRange]

/-- The spans that pass the check and the well-formed ranges correspond one to one. -/
theorem Span.bijOn_toRange :
    Set.BijOn Span.toRange {span | span.fault? = none} {range | range.WellFormed} := by
  refine ⟨fun span sound => fault?_eq_none_iff_wellFormed.mp sound, ?injective, ?surjective⟩
  case injective =>
    intro span _ other _ same
    rw [← ofRange_toRange span, same, ofRange_toRange]
  case surjective =>
    intro range wellFormed
    refine ⟨ofRange range, ?_, toRange_ofRange range⟩
    exact fault?_eq_none_iff.mpr (denotes_ofRange_iff.mpr wellFormed)

/-- A place is an object with two pairs that make a span which passes the check. -/
theorem pairs_of_placeOf {item : Json} {span : Span} (isPlace : placeOf item = .ok span) :
    ∃ members, item = .object members ∧
      requiredPair .notPair (Json.member? "line" members) = .ok span.lines ∧
      requiredPair .notPair (Json.member? "column" members) = .ok span.columns ∧
      span.fault? = none := by
  unfold placeOf at isPlace
  split at isPlace
  · next members =>
    dsimp only at isPlace
    split at isPlace
    · cases isPlace
    · next given makes =>
      split at isPlace
      · cases isPlace
      · next sound =>
        obtain rfl := Except.ok.inj isPlace
        obtain ⟨make, columns, makesLines, isColumns, rfl⟩ := apply_eq_ok_iff.mp makes
        obtain ⟨lines, isLines, rfl⟩ := map_eq_ok_iff.mp makesLines
        exact ⟨members, rfl, isLines, isColumns, sound⟩
  · cases isPlace

/-- A place has a well-formed range. -/
theorem wellFormed_of_placeOf {item : Json} {span : Span} (isPlace : placeOf item = .ok span) :
    span.toRange.WellFormed := by
  obtain ⟨_, _, _, _, sound⟩ := pairs_of_placeOf isPlace
  exact Span.fault?_eq_none_iff_wellFormed.mp sound

/-- A range of a list of places is that of one of its items. -/
theorem exists_of_mem_placesOf {role : PlaceRole} {name : String} {items : List Json}
    {range : Range} (there : range ∈ (placesOf role name items).1) :
    ∃ item ∈ items, ∃ span, placeOf item = .ok span ∧ range = span.toRange := by
  simp only [placesOf, List.filterMap_map, List.mem_filterMap] at there
  obtain ⟨item, among, isRange⟩ := there
  obtain ⟨span, isPlace, rfl⟩ := Option.map_eq_some_iff.mp isRange
  exact ⟨item, among, span, toOption_eq_some.mp isPlace, rfl⟩

/-- The ranges of places are well formed. -/
theorem wellFormed_of_mem_placesOf (role : PlaceRole) (name : String) {items : List Json}
    {range : Range} (there : range ∈ (placesOf role name items).1) : range.WellFormed := by
  obtain ⟨item, -, span, isPlace, rfl⟩ := exists_of_mem_placesOf there
  exact wellFormed_of_placeOf isPlace

/-- Every item of a list of places is a range or noted. -/
theorem length_placesOf (role : PlaceRole) (name : String) (items : List Json) :
    (placesOf role name items).1.length + (placesOf role name items).2.length = items.length := by
  induction items with
  | nil => rfl
  | cons item items inductionHypothesis =>
      simp only [placesOf] at inductionHypothesis ⊢
      rw [List.length_cons, ← inductionHypothesis, List.map_cons]
      cases found : placeOf item <;> simp [Except.toOption] <;> omega

/-! ## Entries -/

/-- The text of a comment is trimmed. -/
theorem trimmed_commentText (comment : List Char) : Text.Trimmed (commentText comment) := by
  unfold commentText
  split
  · exact Text.trimmed_trim _
  · exact Text.trimmed_trim _
  · exact Text.trimmed_trim _

/-- A comment in its normal form is trimmed. -/
theorem trimmed_normalComment (comment : String) : Text.Trimmed (normalComment comment).toList := by
  rw [normalComment, String.toList_ofList]
  exact trimmed_commentText _

/-- The variable that a record describes. -/
def Record.symbol (record : Record) : Variable :=
  let name := record.name.getD ""
  ⟨name, normalComment (record.comment.getD ""), (placesOf .definition name record.definitions).1,
    (placesOf .usage name record.usage).1⟩

/-- The entry that a record gives. -/
def Record.entry? (record : Record) : Option LintEntry :=
  if record.kind = "error" then some (.error record.diagnostic)
  else if record.kind = "warning" then some (.warning record.diagnostic)
  else if record.kind = "variable" then some (.symbol record.symbol)
  else none

/-- A record is found as its entry, if it makes one. -/
theorem Record.entries_findings (record : Record) :
    record.findings.entries = record.entry?.toList := by
  unfold findings entry?
  split_ifs <;> rfl

/-- A diagnostic has a range only if the record has lines and columns, whose range it is. -/
theorem Record.exists_of_mem_diagnostic {record : Record} {range : Range}
    (there : range ∈ record.diagnostic.range) : ∃ lines columns, record.lines = some lines ∧
      record.columns = some columns ∧ range = (Span.mk lines columns).toRange := by
  obtain ⟨span, given, rfl⟩ := Option.map_eq_some_iff.mp there
  unfold span? at given
  split at given
  · next lines columns sameLines sameColumns =>
    obtain rfl := Option.some.inj given
    exact ⟨lines, columns, sameLines, sameColumns, rfl⟩
  · cases given

/-- The range of a diagnostic that a sensible record describes is well formed. -/
theorem Record.Sensible.wellFormed {record : Record} (sensible : record.Sensible) {range : Range}
    (there : range ∈ record.diagnostic.range) : range.WellFormed := by
  obtain ⟨lines, columns, sameLines, sameColumns, rfl⟩ := record.exists_of_mem_diagnostic there
  rw [← Span.fault?_eq_none_iff_wellFormed, Span.fault?_eq_none_iff]
  exact sensible.span lines columns sameLines sameColumns

/-- The ranges of the variable that a record describes are well formed. -/
theorem Record.wellFormed_of_mem_symbol {record : Record} {range : Range}
    (there : range ∈ record.symbol.definitions ++ record.symbol.usage) : range.WellFormed :=
  (List.mem_append.mp there).elim
    (wellFormed_of_mem_placesOf .definition (record.name.getD ""))
    (wellFormed_of_mem_placesOf .usage (record.name.getD ""))

/-- The variable that a sensible record describes has a name. -/
theorem Record.Sensible.named_symbol {record : Record} (sensible : record.Sensible)
    (isVariable : record.kind = "variable") : record.symbol.name ≠ "" := by
  obtain ⟨name, known, nonempty⟩ := sensible.named isVariable
  simpa [symbol, known] using nonempty

/-- A diagnostic has a range exactly if its record gives both lines and columns. -/
theorem Record.diagnostic_isLocated_iff (record : Record) :
    record.diagnostic.range.isSome ↔ record.lines.isSome ∧ record.columns.isSome := by
  rw [diagnostic, Option.isSome_map, span?]
  cases record.lines <;> cases record.columns <;> simp

/-! ## Records among lines -/

/-- The records among lines. -/
def recordsAmong (lines : List (List Char)) : List Record :=
  lines.filterMap fun line => (readRecord line).toOption

/-- The records of a kind among lines. -/
def recordsOfKind (kind : String) (lines : List (List Char)) : List Record :=
  (recordsAmong lines).filter (·.kind = kind)

/-- A line that is read says what its record says. -/
theorem readLine_of_decodeLine {line : List Char} {record : Record}
    (decoded : decodeLine line = .ok record) : readLine line = record.findings := by
  rw [readLine, decodeLine_eq_ok_iff_readRecord.mp decoded]

/-- What several lines say is what the first one says and then what the others say. -/
theorem readLines_cons (line : List Char) (lines : List (List Char)) :
    readLines (line :: lines) = (readLine line).append (readLines lines) := rfl

/-- A record in front is the first record among lines. -/
theorem recordsAmong_cons_of_ok {line : List Char} {record : Record}
    (isRecord : readRecord line = .ok record) (lines : List (List Char)) :
    recordsAmong (line :: lines) = record :: recordsAmong lines := by
  simp [recordsAmong, isRecord, Except.toOption]

/-- A line in front that is no record adds no record. -/
theorem recordsAmong_cons_of_error {line : List Char} {fault : LineFault}
    (isNone : readRecord line = .error fault) (lines : List (List Char)) :
    recordsAmong (line :: lines) = recordsAmong lines := by
  simp [recordsAmong, isNone, Except.toOption]

/-- The entries that lines give are those of the records among them. -/
theorem entries_readLines (lines : List (List Char)) :
    (readLines lines).entries = (recordsAmong lines).filterMap Record.entry? := by
  induction lines with
  | nil => rfl
  | cons line lines inductionHypothesis =>
      rw [readLines_cons, Findings.append, inductionHypothesis]
      cases read : readRecord line with
      | error fault => simp [readLine, read, recordsAmong_cons_of_error read]
      | ok record =>
          rw [recordsAmong_cons_of_ok read, List.filterMap_cons, readLine, read]
          simp only [Record.entries_findings]
          cases record.entry? <;> rfl

/-- A record among lines is what one of them is read as. -/
theorem exists_line_of_mem_recordsOfKind {kind : String} {lines : List (List Char)}
    {record : Record}
    (there : record ∈ recordsOfKind kind lines) : ∃ line ∈ lines, readRecord line = .ok record := by
  obtain ⟨line, among, read⟩ := List.mem_filterMap.mp (List.mem_of_mem_filter there)
  refine ⟨line, among, ?_⟩
  cases found : readRecord line with
  | error fault => simp [found, Except.toOption] at read
  | ok other =>
      obtain rfl : other = record := by simpa [found, Except.toOption] using read
      rfl

/-- A record among lines is sensible. -/
theorem sensible_of_mem_recordsOfKind {kind : String} {lines : List (List Char)} {record : Record}
    (there : record ∈ recordsOfKind kind lines) : record.Sensible := by
  obtain ⟨line, -, found⟩ := exists_line_of_mem_recordsOfKind there
  obtain ⟨pairs, -, -, sensible⟩ := readRecord_eq_ok_iff.mp found
  exact sensible

/-- The entries of one kind are what the records of that kind describe. -/
theorem filterMap_entries {α : Type} (kind : String) (describe : Record → α)
    (pick : LintEntry → Option α)
    (picks : ∀ record : Record, record.entry?.bind pick =
      if record.kind = kind then some (describe record) else none) (lines : List (List Char)) :
    (readLines lines).entries.filterMap pick = (recordsOfKind kind lines).map describe := by
  rw [entries_readLines, List.filterMap_filterMap, recordsOfKind]
  induction recordsAmong lines with
  | nil => rfl
  | cons record records inductionHypothesis =>
      rw [List.filterMap_cons, picks, inductionHypothesis, List.filter_cons]
      by_cases same : record.kind = kind <;> simp [same]

/-- The errors that lines give are those of their records, in order. -/
theorem errorsOf_readLines (lines : List (List Char)) :
    Report.errorsOf (readLines lines).entries =
      (recordsOfKind "error" lines).map Record.diagnostic := by
  refine filterMap_entries "error" _ _ (fun record => ?_) lines
  unfold Record.entry?
  split_ifs <;> simp

/-- The warnings that lines give are those of their records, in order. -/
theorem warningsOf_readLines (lines : List (List Char)) :
    Report.warningsOf (readLines lines).entries =
      (recordsOfKind "warning" lines).map Record.diagnostic := by
  refine filterMap_entries "warning" _ _ (fun record => ?_) lines
  unfold Record.entry?
  split_ifs <;> simp_all

/-- The variables that lines give are those of their records, in order. -/
theorem variablesOf_readLines (lines : List (List Char)) :
    Report.variablesOf (readLines lines).entries =
      (recordsOfKind "variable" lines).map Record.symbol := by
  refine filterMap_entries "variable" _ _ (fun record => ?_) lines
  unfold Record.entry?
  split_ifs <;> simp_all

end LintClient.Protocol
