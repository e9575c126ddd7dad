import LintClient.Proofs.Protocol.Findings

/-!
# What is counted

Every line that is read is a record, a skipped record or a malformed line. Every record is an entry,
every item of its lists of places is a range of the entry or a bad place, and every malformed line
and bad place is warned of once. These balances hold of a single line and add up over lines
(`accounts_readLines`).
-/

namespace LintClient

/-- Every entry is of one kind. -/
theorem Report.length_entries {δ ν : Type} (entries : List (Entry δ ν)) :
    entries.length = (errorsOf entries).length + (warningsOf entries).length
      + (variablesOf entries).length := by
  induction entries with
  | nil => rfl
  | cons entry entries inductionHypothesis =>
      simp only [errorsOf, warningsOf, variablesOf] at inductionHypothesis ⊢
      cases entry <;> simp [inductionHypothesis] <;> omega

namespace Protocol

/-- The level of the log record for a note. -/
def Note.level : Note → Level
  | .malformedLine .. | .badPlace .. => .warning
  | .unknownKind _ => .trace

/-- A note is logged at its own level. -/
@[simp] theorem Note.level_logRecord (source : String) (note : Note) :
    (note.logRecord source).level = note.level := by
  cases note <;> rfl

/-- The number of items in the lists of places of the variable records among lines. -/
def givenPlaces (lines : List (List Char)) : Nat :=
  ((recordsOfKind "variable" lines).flatMap fun record =>
    record.definitions ++ record.usage).length

/-- The number of ranges of variables. -/
def keptPlaces (symbols : List Variable) : Nat :=
  (symbols.flatMap fun entry => entry.definitions ++ entry.usage).length

/-- What is counted balances: the lines with what they are counted as, the records with the entries,
the items of lists of places with ranges and bad places, and what was not understood with the
notes. -/
structure Accounts (lines : List (List Char)) (said : Findings) : Prop where
  counted : said.tally.records + said.tally.skipped + said.tally.malformed = lines.length
  entries : said.tally.records = said.entries.length
  places : said.tally.badPlaces + keptPlaces (Report.variablesOf said.entries) = givenPlaces lines
  warnings : said.notes.countP (·.level = .warning) = said.tally.malformed + said.tally.badPlaces
  traces : said.notes.countP (·.level = .trace) = said.tally.skipped

/-- Nothing has been found in no lines. -/
theorem accounts_empty : Accounts [] .empty :=
  ⟨rfl, rfl, rfl, rfl, rfl⟩

/-- The places that lines give are counted line by line. -/
theorem givenPlaces_append (first second : List (List Char)) :
    givenPlaces (first ++ second) = givenPlaces first + givenPlaces second := by
  simp [givenPlaces, recordsOfKind, recordsAmong]

/-- Balances add up. -/
theorem Accounts.append {first second : List (List Char)} {said others : Findings}
    (balanced : Accounts first said) (balancedToo : Accounts second others) :
    Accounts (first ++ second) (said.append others) := by
  have kept : keptPlaces (Report.variablesOf (said.entries ++ others.entries)) =
      keptPlaces (Report.variablesOf said.entries)
        + keptPlaces (Report.variablesOf others.entries) := by
    simp [keptPlaces, Report.variablesOf]
  have counted := balanced.counted
  have countedToo := balancedToo.counted
  have places := balanced.places
  have placesToo := balancedToo.places
  constructor <;> simp only [Findings.append, Tally.add, List.length_append, List.countP_append]
  · omega
  · rw [balanced.entries, balancedToo.entries]
  · rw [kept, givenPlaces_append]
    omega
  · rw [balanced.warnings, balancedToo.warnings]
    omega
  · rw [balanced.traces, balancedToo.traces]

/-- The notes about the lists of places of a record. -/
def Record.placeNotes (record : Record) : List Note :=
  let name := record.name.getD ""
  (placesOf .definition name record.definitions).2 ++ (placesOf .usage name record.usage).2

/-- A variable is found with its places, and a note for each place that is none. -/
theorem Record.findings_of_variable {record : Record} (isVariable : record.kind = "variable") :
    record.findings =
      ⟨[.symbol record.symbol], ⟨1, 0, 0, record.placeNotes.length⟩, record.placeNotes⟩ := by
  have notError : record.kind ≠ "error" := by simp [isVariable]
  have notWarning : record.kind ≠ "warning" := by simp [isVariable]
  rw [findings, if_neg notError, if_neg notWarning, if_pos isVariable]
  rfl

/-- Every item of the lists of places is a range of the variable or noted. -/
theorem Record.length_placeNotes (record : Record) :
    record.placeNotes.length + (record.symbol.definitions.length + record.symbol.usage.length) =
      record.definitions.length + record.usage.length := by
  have definitions := length_placesOf .definition (record.name.getD "") record.definitions
  have usage := length_placesOf .usage (record.name.getD "") record.usage
  simp only [placeNotes, symbol, List.length_append]
  omega

/-- Every note about a list of places is a warning. -/
theorem level_of_mem_placesOf {role : PlaceRole} {name : String} {items : List Json} {note : Note}
    (there : note ∈ (placesOf role name items).2) : note.level = .warning := by
  simp only [placesOf, List.filterMap_map, List.mem_filterMap, Function.comp_apply] at there
  obtain ⟨item, -, noted⟩ := there
  cases found : placeOf item with
  | ok span => simp [found] at noted
  | error fault =>
      obtain rfl : Note.badPlace role name item fault = note := by simpa [found] using noted
      rfl

/-- The notes about places are warnings. -/
theorem Record.level_of_mem_placeNotes {record : Record} {note : Note}
    (there : note ∈ record.placeNotes) : note.level = .warning :=
  (List.mem_append.mp there).elim level_of_mem_placesOf level_of_mem_placesOf

/-- The places that the line of a record gives: all items of a variable, and none otherwise. -/
theorem givenPlaces_of_ok {line : List Char} {record : Record}
    (isRecord : readRecord line = .ok record) : givenPlaces [line] =
      if record.kind = "variable" then record.definitions.length + record.usage.length else 0 := by
  rw [givenPlaces, recordsOfKind, recordsAmong_cons_of_ok isRecord]
  by_cases isVariable : record.kind = "variable" <;> simp [recordsAmong, isVariable]

/-- What a record says balances. -/
theorem accounts_findings {line : List Char} {record : Record}
    (isRecord : readRecord line = .ok record) : Accounts [line] record.findings := by
  have given := givenPlaces_of_ok isRecord
  by_cases isVariable : record.kind = "variable"
  · rw [if_pos isVariable] at given
    rw [Record.findings_of_variable isVariable]
    refine ⟨rfl, rfl, ?places, ?warnings, ?traces⟩
    case places =>
      rw [given, ← record.length_placeNotes]
      simp [keptPlaces, Report.variablesOf]
    case warnings =>
      rw [Nat.zero_add]
      refine List.countP_eq_length.mpr fun note there => ?_
      rw [Record.level_of_mem_placeNotes there]
      rfl
    case traces =>
      refine List.countP_eq_zero.mpr fun note there => ?_
      rw [Record.level_of_mem_placeNotes there]
      decide
  · rw [if_neg isVariable] at given
    unfold Record.findings
    split_ifs
    · exact ⟨rfl, rfl, given.symm, rfl, rfl⟩
    · exact ⟨rfl, rfl, given.symm, rfl, rfl⟩
    · exact ⟨rfl, rfl, given.symm, rfl, rfl⟩

/-- What a line says balances. -/
theorem accounts_readLine (line : List Char) : Accounts [line] (readLine line) := by
  unfold readLine
  split
  · next record isRecord => exact accounts_findings isRecord
  · next fault isNone =>
    have given : givenPlaces [line] = 0 := by
      rw [givenPlaces, recordsOfKind, recordsAmong_cons_of_error isNone]
      rfl
    exact ⟨rfl, rfl, given.symm, rfl, rfl⟩

/-- What lines say balances. -/
theorem accounts_readLines (lines : List (List Char)) : Accounts lines (readLines lines) := by
  induction lines with
  | nil => exact accounts_empty
  | cons line lines inductionHypothesis =>
      exact (accounts_readLine line).append inductionHypothesis

end Protocol

end LintClient
