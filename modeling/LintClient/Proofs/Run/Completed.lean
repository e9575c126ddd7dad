import LintClient.Proofs.Protocol.Accounting
import LintClient.Proofs.Run.Chunking

/-!
# What completed lines give

At every point of a stream, what has come of it is what its completed lines say
(`afterCalls_eq_completed`); of the line that is unfinished nothing has come yet. So everything that
a decoder has put into a report is sound (`afterCalls_sound`), and what it has counted balances with
the lines, the report and the log (`afterCalls_accounts`).
-/

namespace LintClient

open Protocol (Span Record Findings contentLines readLines recordsOfKind givenPlaces keptPlaces)

/-- The ranges of a report. -/
def LintReport.ranges (report : LintReport) : List Range :=
  (report.errors ++ report.warnings).filterMap Diagnostic.range
    ++ report.symbols.flatMap fun entry => entry.definitions ++ entry.usage

/-- The diagnostic is that of the record: it has the text of the record, and a range exactly if the
record gives both lines and columns. -/
structure Diagnostic.Describes (diagnostic : Diagnostic) (record : Record) : Prop where
  text : diagnostic.message = record.text
  located : diagnostic.range.isSome ↔ record.lines.isSome ∧ record.columns.isSome

/-- A record is described by its diagnostic. -/
theorem Protocol.Record.describes (record : Record) : record.diagnostic.Describes record :=
  ⟨rfl, record.diagnostic_isLocated_iff⟩

/-- Records are described by their diagnostics one by one. -/
theorem forall₂_describes (records : List Record) :
    List.Forall₂ Diagnostic.Describes (records.map Record.diagnostic) records :=
  List.forall₂_map_left_iff.mpr (List.forall₂_same.mpr fun record _ => record.describes)

namespace Run

open Text (Trimmed)

/-- The lines that calls complete: a newline completes one, and so does the end of the output. -/
def completed (calls : List OutputCall) : List (List Char) :=
  ((written calls).splitOn 0x0A).dropLast.map Text.Utf8.decodeLossy

namespace Listening

open Protocol (Framing)

/-- What has come of calls is what the lines say that they complete. -/
theorem afterCalls_eq_completed (source : String) (calls : List OutputCall) :
    afterCalls source .empty calls =
      heed source ⟨.start, .empty, []⟩ (Framing.start.feed (written calls)).1
        (readLines (contentLines (completed calls))) := by
  have lines : (Framing.start.feed (written calls)).2 = completed calls := by
    rw [Framing.feed_start_lines, Text.splitAt_eq_splitOn, Text.Utf8.splitOn_decodeLossy,
      ← List.map_dropLast, completed]
  rw [afterCalls_eq rfl, ofBytes, lines]

section Counted

variable (source : String) (calls : List OutputCall)

/-- The tally after completed calls is that of the content lines. -/
theorem tally_afterCalls : (afterCalls source .empty calls).decoder.tally =
    (readLines (contentLines (completed calls))).tally := by
  rw [afterCalls_eq_completed]
  simp [heed, Protocol.Decoder.start, Protocol.Tally.add, Protocol.Tally.zero]

/-- The report after completed calls holds the records of the content lines, by kind. -/
theorem report_afterCalls : (afterCalls source .empty calls).report =
    ⟨(recordsOfKind "error" (contentLines (completed calls))).map Record.diagnostic,
      (recordsOfKind "warning" (contentLines (completed calls))).map Record.diagnostic,
      (recordsOfKind "variable" (contentLines (completed calls))).map Record.symbol, false⟩ := by
  rw [afterCalls_eq_completed]
  simp [heed, Report.appendAll, Report.empty, Protocol.errorsOf_readLines,
    Protocol.warningsOf_readLines, Protocol.variablesOf_readLines]

/-- The log after completed calls holds the notes of the content lines. -/
theorem records_afterCalls : (afterCalls source .empty calls).records =
    (readLines (contentLines (completed calls))).notes.map fun note => note.logRecord source := by
  rw [afterCalls_eq_completed]
  simp [heed]

/-- The records of a level are the notes of that level. -/
theorem countP_records_afterCalls (level : Level) :
    (afterCalls source .empty calls).records.countP (·.level = level) =
      (readLines (contentLines (completed calls))).notes.countP (·.level = level) := by
  simp [records_afterCalls, List.countP_map, Function.comp_def]

end Counted

/-- Everything that a decoder puts into a report is sound, whatever it is fed and however often it
is told of the end of the output. All ranges are well formed. The diagnostics are those of the
records of their kind among the completed lines, one by one, and have a range exactly if their
record gives both lines and columns. Variables have a name, and comments have no blanks at their
ends. The check of spans is exact: it lets those pass whose range is well formed, and these spans
and the well-formed ranges correspond one to one. -/
theorem afterCalls_sound (source : String) (calls : List OutputCall) :
    (∀ range ∈ LintReport.ranges (afterCalls source .empty calls).report, range.WellFormed) ∧
    List.Forall₂ Diagnostic.Describes (afterCalls source .empty calls).report.errors
      (recordsOfKind "error" (contentLines (completed calls))) ∧
    List.Forall₂ Diagnostic.Describes (afterCalls source .empty calls).report.warnings
      (recordsOfKind "warning" (contentLines (completed calls))) ∧
    (∀ entry ∈ (afterCalls source .empty calls).report.symbols,
      entry.name ≠ "" ∧ Trimmed entry.comment.toList) ∧
    (∀ span : Span, span.fault? = none ↔ span.toRange.WellFormed) ∧
    Set.BijOn Span.toRange {span | span.fault? = none} {range | range.WellFormed} := by
  refine ⟨?ranges, ?errors, ?warnings, ?symbols, ?exact, Span.bijOn_toRange⟩
  case ranges =>
    intro range there
    simp only [LintReport.ranges, report_afterCalls, List.mem_append, ← List.map_append,
      List.mem_filterMap, List.mem_flatMap, List.mem_map] at there
    rcases there with ⟨_, ⟨record, among, rfl⟩, located⟩ | ⟨_, ⟨record, among, rfl⟩, placed⟩
    · rcases among with among | among
      · exact (Protocol.sensible_of_mem_recordsOfKind among).wellFormed located
      · exact (Protocol.sensible_of_mem_recordsOfKind among).wellFormed located
    · exact Record.wellFormed_of_mem_symbol (List.mem_append.mpr placed)
  case errors =>
    rw [report_afterCalls]
    exact forall₂_describes _
  case warnings =>
    rw [report_afterCalls]
    exact forall₂_describes _
  case symbols =>
    rw [report_afterCalls]
    intro entry there
    obtain ⟨record, among, rfl⟩ := List.mem_map.mp there
    have isVariable : record.kind = "variable" := of_decide_eq_true (List.mem_filter.mp among).2
    exact ⟨(Protocol.sensible_of_mem_recordsOfKind among).named_symbol isVariable,
      Protocol.trimmed_normalComment _⟩
  case exact => exact fun span => Span.fault?_eq_none_iff_wellFormed

/-- What a decoder has counted balances at every point of a stream. Every completed line that holds
something is a record, a skipped record or a malformed line. Every record is an entry of the report.
Every item in the lists of places of the variable records is a range of a variable or a bad place.
There is one warning for each malformed line and each bad place, and one trace for each skipped
record. -/
theorem afterCalls_accounts (source : String) (calls : List OutputCall) :
    let heard := afterCalls source .empty calls
    let tally := heard.decoder.tally
    let lines := contentLines (completed calls)
    tally.records + tally.skipped + tally.malformed = lines.length ∧
      tally.records =
        heard.report.errors.length + heard.report.warnings.length + heard.report.symbols.length ∧
      tally.badPlaces + keptPlaces heard.report.symbols = givenPlaces lines ∧
      heard.records.countP (·.level = .warning) = tally.malformed + tally.badPlaces ∧
      heard.records.countP (·.level = .trace) = tally.skipped := by
  intro heard tally lines
  have balanced := Protocol.accounts_readLines lines
  have counted : tally = (readLines lines).tally := tally_afterCalls source calls
  have entries := Report.length_entries (readLines lines).entries
  rw [Protocol.errorsOf_readLines, Protocol.warningsOf_readLines, Protocol.variablesOf_readLines]
    at entries
  have places := balanced.places
  rw [Protocol.variablesOf_readLines] at places
  rw [counted]
  refine ⟨balanced.counted, ?entries, ?places, ?warnings, ?traces⟩
  case entries =>
    rw [balanced.entries, entries]
    simp only [heard, report_afterCalls, lines]
  case places =>
    rw [← places]
    simp only [heard, report_afterCalls, lines]
  case warnings => rw [countP_records_afterCalls, balanced.warnings]
  case traces => rw [countP_records_afterCalls, balanced.traces]

end Listening

end Run

end LintClient
