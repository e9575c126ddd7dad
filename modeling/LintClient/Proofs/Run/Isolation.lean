import LintClient.Proofs.Run.Chunking

/-!
# Lines apart

A newline cuts a stream in two: what stands before it and what stands behind it are read as two
streams (`afterCalls_isolates_lines`). Nothing that a line holds, be it broken characters or a
broken record, reaches another line.
-/

namespace LintClient

namespace Protocol

/-- What is left of a line whose bytes are given, once they are read and stripped. -/
def lineText (bytes : List UInt8) : List Char :=
  Text.strip Text.isLineEnding (Text.Utf8.decodeLossy bytes)

/-- A line without an entry for the report: it is empty, malformed or of an unknown kind. -/
def WithoutEntry (line : List Char) : Prop :=
  line = [] ∨ (∃ fault, readRecord line = .error fault) ∨
    ∃ record, readRecord line = .ok record ∧ record.kind ∉ ["error", "warning", "variable"]

/-- A record of an unknown kind is skipped. -/
theorem Record.findings_of_unknownKind {record : Record}
    (unknown : record.kind ∉ ["error", "warning", "variable"]) :
    record.findings = ⟨[], ⟨0, 1, 0, 0⟩, [.unknownKind record.kind]⟩ := by
  simp only [List.mem_cons, List.not_mem_nil, or_false, not_or] at unknown
  simp [findings, unknown]

/-- A line without an entry gives none. -/
theorem WithoutEntry.entries {line : List Char} (without : WithoutEntry line) :
    (readLines (if line.isEmpty then [] else [line])).entries = [] := by
  rcases without with rfl | ⟨fault, broken⟩ | ⟨record, read, unknown⟩
  · rfl
  · split
    · rfl
    · simp [readLines, Findings.concat, Findings.append, Findings.empty, readLine, broken]
  · split
    · rfl
    · simp [readLines, Findings.concat, Findings.append, Findings.empty, readLine, read,
        Record.findings_of_unknownKind unknown]

/-- The line of some bytes, if it holds something. -/
theorem contentLines_singleton (bytes : List UInt8) :
    contentLines [Text.Utf8.decodeLossy bytes] =
      if (lineText bytes).isEmpty then [] else [lineText bytes] := by
  simp only [contentLines, List.map_cons, List.map_nil, List.filter_cons, List.filter_nil, lineText]
  by_cases empty : (Text.strip Text.isLineEnding (Text.Utf8.decodeLossy bytes)).isEmpty <;>
    simp [empty]

end Protocol

namespace Run.Listening

open Protocol (Framing Findings readLines contentLines)

/-- What has come of two decoders with reports of their own, put together. -/
def beside (first second : Listening) : Listening :=
  ⟨⟨second.decoder.framing, first.decoder.tally.add second.decoder.tally⟩,
    ⟨first.report.errors ++ second.report.errors, first.report.warnings ++ second.report.warnings,
      first.report.symbols ++ second.report.symbols, second.report.frozen⟩,
    first.records ++ second.records⟩

/-- What has come of a whole stream, its end included. -/
def decoded (source : String) (bytes : List UInt8) : Listening :=
  afterCalls source .empty [.feed bytes, .close]

/-- A whole stream is one with a newline behind it. -/
theorem decoded_eq_ofBytes (source : String) (bytes : List UInt8) :
    decoded source bytes = ofBytes source .empty (bytes ++ [0x0A]) := by
  rw [decoded, afterCalls_eq rfl]
  simp [written, OutputCall.bytes]

/-- To go on with a report is to put what is said behind what it holds. -/
theorem followedBy_eq_beside (source : String) (first : Listening)
    (opened : first.report.frozen = false) (bytes : List UInt8) :
    first.followedBy (ofBytes source first.report bytes) =
      first.beside (ofBytes source .empty bytes) := by
  simp [followedBy, beside, ofBytes, heed, Report.appendAll, Report.empty, opened]

/-- A stream with a newline in it is two streams. -/
theorem decoded_append_newline (source : String) (first second : List UInt8) :
    decoded source (first ++ 0x0A :: second) =
      (decoded source first).beside (decoded source second) := by
  have split : first ++ 0x0A :: second ++ [0x0A] = first ++ [0x0A] ++ (second ++ [0x0A]) := by simp
  rw [decoded_eq_ofBytes, split, ofBytes_append_of_newline, followedBy_eq_beside _ _ rfl,
    ← decoded_eq_ofBytes, ← decoded_eq_ofBytes]

/-- What a single line gives is what is read of it. -/
theorem decoded_line (source : String) {line : List UInt8} (single : 0x0A ∉ line) :
    (decoded source line).report =
      Report.empty.appendAll (readLines (contentLines [Text.Utf8.decodeLossy line])).entries := by
  have noNewline := (Text.Utf8.reads_decodeLossy line).newline_notMem single
  rw [decoded_eq_ofBytes, ofBytes, Framing.feed_start_newline, Text.splitAt_of_notMem noNewline]
  rfl

/-- Lines are read apart. After a newline nothing is left in a decoder, whatever it has been fed
before. The lines of a text are the texts of the lines of its bytes, so that a newline is read where
its byte stands and nowhere else. What comes of a stream with a newline in it, in whatever chunks,
is what comes of its two parts, each on a decoder and a report of its own. A line without an entry
changes nothing in the report. -/
theorem afterCalls_isolates_lines (source : String) (first second : List UInt8) :
    (∀ (decoder : Protocol.Decoder) (frozen : Bool),
      (decoder.feed frozen (first ++ [0x0A])).1.framing = ⟨.none, []⟩) ∧
    (∀ bytes : List UInt8, (Text.Utf8.decodeLossy bytes).splitOn '\n' =
      (bytes.splitOn 0x0A).map Text.Utf8.decodeLossy) ∧
    (∀ calls, written calls = first ++ 0x0A :: second →
      afterCalls source .empty (calls ++ [.close]) =
        (afterCalls source .empty [.feed first, .close]).beside
          (afterCalls source .empty [.feed second, .close])) ∧
    ∀ line, 0x0A ∉ line → Protocol.WithoutEntry (Protocol.lineText line) →
      (afterCalls source .empty [.feed (first ++ 0x0A :: line ++ 0x0A :: second), .close]).report =
        (afterCalls source .empty [.feed (first ++ 0x0A :: second), .close]).report := by
  refine ⟨?residue, Text.Utf8.splitOn_decodeLossy, ?parts, ?silent⟩
  case residue =>
    intro decoder frozen
    exact Framing.feed_append_newline decoder.framing first
  case parts =>
    intro calls bytes
    have closed : written (calls ++ [.close]) =
        written [.feed (first ++ 0x0A :: second), .close] := by
      simp [written, OutputCall.bytes, ← bytes]
    rw [afterCalls_eq rfl, closed, ← afterCalls_eq rfl]
    exact decoded_append_newline source first second
  case silent =>
    intro line single without
    have nothing : (decoded source line).report = .empty := by
      rw [decoded_line source single, Protocol.contentLines_singleton, without.entries,
        Report.appendAll_nil]
    change (decoded source _).report = (decoded source _).report
    rw [List.append_assoc, List.cons_append, decoded_append_newline, decoded_append_newline,
      decoded_append_newline]
    simp [beside, nothing, Report.empty]

/-- A character that is cut off by a newline makes its line a malformed one and harms no other. -/
theorem afterCalls_isolates_truncated_character :
    (0x0A : UInt8) ∉ [0xF0, 0x9F, 0x98] ∧
    Protocol.WithoutEntry (Protocol.lineText [0xF0, 0x9F, 0x98]) ∧
      (afterCalls "lint" .empty
        [.feed ([0x7B] ++ 0x0A :: [0xF0, 0x9F, 0x98] ++ 0x0A :: [0xC3]), .close]).report =
        (afterCalls "lint" .empty [.feed ([0x7B] ++ 0x0A :: [0xC3]), .close]).report := by
  have single : (0x0A : UInt8) ∉ [0xF0, 0x9F, 0x98] := by decide
  have text : Protocol.lineText [0xF0, 0x9F, 0x98] = ['\uFFFD'] := by decide
  have without : Protocol.WithoutEntry (Protocol.lineText [0xF0, 0x9F, 0x98]) := by
    rw [text]
    refine .inr (.inl ⟨.notJson ⟨.expectedValue, ['\uFFFD']⟩, ?_⟩)
    have refused : Json.Line.value .ofReader 0 (Json.skipGap ['\uFFFD']) =
        .error ⟨.expectedValue, ['\uFFFD']⟩ := by
      rw [Json.Line.value.eq_def]
      rfl
    simp only [Protocol.readRecord, Protocol.readRecordWithin, Json.Line.document, refused]
    rfl
  exact ⟨single, without, (afterCalls_isolates_lines "lint" [0x7B] [0xC3]).2.2.2 _ single without⟩

end Run.Listening

end LintClient
