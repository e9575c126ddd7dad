import LintClient.Proofs.Protocol.Sifting
import LintClient.Proofs.Run.Isolation

/-!
# Variables in a stream

What a line with a variable adds to what comes of a stream is the variable with the ranges of those
of its items that are places; of the others only their number and the notes about them are left
(`afterCalls_sifts_places`). An item that is no place can be put anywhere into the lists of the
variable without a difference for anything else, in whatever chunks the stream arrives.
-/

namespace LintClient

namespace Protocol

open Run

/-- A stream that stops where a line starts. -/
def StopsAtLine (bytes : List UInt8) : Prop :=
  bytes = [] ∨ ∃ earlier, bytes = earlier ++ [0x0A]

/-- Where a line starts nothing is left in the framing. -/
theorem StopsAtLine.feed_eq {bytes : List UInt8} (stops : StopsAtLine bytes) :
    (Framing.start.feed bytes).1 = .start := by
  rcases stops with rfl | ⟨earlier, rfl⟩
  · rw [Framing.feed_nil Framing.oneLine_start]
  · rw [Framing.feed_append_newline]

/-- What the lines of a stream say. -/
def saidBy (bytes : List UInt8) : Findings :=
  readLines (contentLines (Framing.start.feed bytes).2)

/-- What the lines of two parts say is said by the first part and then by the second. -/
theorem saidBy_append {first : List UInt8} (stops : StopsAtLine first) (second : List UInt8) :
    saidBy (first ++ second) = (saidBy first).append (saidBy second) := by
  rw [saidBy, Framing.feed_append, stops.feed_eq, contentLines_append, readLines_append]
  rfl

/-- A line that holds something says what is read of it. -/
theorem saidBy_line {line : List UInt8} (single : 0x0A ∉ line) (some : lineText line ≠ []) :
    saidBy (line ++ [0x0A]) = readLine (lineText line) := by
  have noNewline := (Text.Utf8.reads_decodeLossy line).newline_notMem single
  have holds : (lineText line).isEmpty = false := List.isEmpty_eq_false_iff.mpr some
  rw [saidBy, Framing.feed_start_newline, Text.splitAt_of_notMem noNewline, contentLines_singleton,
    holds]
  simp [readLines, Findings.concat, Findings.append, Findings.empty, Tally.add, Tally.zero]

/-- A line that is a record says what the record says. -/
theorem saidBy_record {line : List UInt8} (single : 0x0A ∉ line) {record : Record}
    (isRecord : readRecord (lineText line) = .ok record) :
    saidBy (line ++ [0x0A]) = record.findings := by
  rw [saidBy_line single (ne_nil_of_readRecord isRecord), readLine, isRecord]

/-- A text without line endings is found again in its bytes. -/
theorem lineText_encode {text : List Char} (plain : ∀ c ∈ text, Text.isLineEnding c = false) :
    lineText (Text.Utf8.encode text) = text := by
  have stripped := Text.strip_append (List.forall_mem_nil _) plain (List.forall_mem_nil _)
  rw [List.nil_append, List.append_nil] at stripped
  rw [lineText, Text.Utf8.decodeLossy_encode, stripped]

/-- A text without line endings has no newline among its bytes. -/
theorem newline_notMem_encode {text : List Char} (plain : ∀ c ∈ text, Text.isLineEnding c = false) :
    0x0A ∉ Text.Utf8.encode text := by
  intro there
  obtain ⟨before, after, split⟩ := List.append_of_mem there
  have whole := Text.Utf8.decodeLossy_encode text
  rw [split, Text.Utf8.decodeLossy_append_newline] at whole
  have among : '\n' ∈ text := whole ▸ List.mem_append_right _ List.mem_cons_self
  exact absurd (plain _ among) (by decide)

end Protocol

namespace Run.Listening

open Protocol
open Json.Line (objectText nestedValue)

/-- One variable more has come of a stream, behind the earlier ones, with some bad places. -/
structure AddsVariable (earlier : List Variable) (entry : Variable) (badPlaces : Nat)
    (without heard : Listening) : Prop where
  errors : heard.report.errors = without.report.errors
  warnings : heard.report.warnings = without.report.warnings
  symbols : ∃ later, without.report.symbols = earlier ++ later ∧
    heard.report.symbols = earlier ++ entry :: later
  frozen : heard.report.frozen = without.report.frozen
  framing : heard.decoder.framing = without.decoder.framing
  tally : heard.decoder.tally = without.decoder.tally.add ⟨1, 0, 0, badPlaces⟩
  records : ∃ before notes after, without.records = before ++ after ∧
    heard.records = before ++ (notes ++ after) ∧ notes.length = badPlaces

/-- One bad place more has come of a stream, and the note about it. -/
structure AddsBadPlace (note : LogRecord) (without heard : Listening) : Prop where
  report : heard.report = without.report
  framing : heard.decoder.framing = without.decoder.framing
  tally : heard.decoder.tally = without.decoder.tally.add ⟨0, 0, 0, 1⟩
  records : ∃ before after, without.records = before ++ after ∧
    heard.records = before ++ note :: after

section Parts

variable (source : String) (report : LintReport) {first : List UInt8} (stops : StopsAtLine first)

include stops

/-- What has come of two parts, the first of which stops where a line starts. -/
theorem ofBytes_append (second : List UInt8) :
    ofBytes source report (first ++ second) =
      heed source ⟨.start, report, []⟩ (Framing.start.feed second).1
        ((saidBy first).append (saidBy second)) := by
  have framing : (Framing.start.feed (first ++ second)).1 = (Framing.start.feed second).1 := by
    rw [Framing.feed_append, stops.feed_eq]
  rw [← saidBy_append stops, ofBytes, framing]
  rfl

/-- What has come of a stream with a record on a line of its own. -/
theorem ofBytes_line {line : List UInt8} (single : 0x0A ∉ line) {record : Record}
    (isRecord : readRecord (lineText line) = .ok record) (second : List UInt8) :
    ofBytes source report (first ++ (line ++ 0x0A :: second)) =
      heed source ⟨.start, report, []⟩ (Framing.start.feed second).1
        ((saidBy first).append (record.findings.append (saidBy second))) := by
  have stopsToo : StopsAtLine (line ++ [0x0A]) := .inr ⟨line, rfl⟩
  have split : line ++ 0x0A :: second = line ++ [0x0A] ++ second := by simp
  rw [ofBytes_append source report stops, split, saidBy_append stopsToo,
    saidBy_record single isRecord, Framing.feed_append, stopsToo.feed_eq]

end Parts

section Heeding

variable (source : String) (listening : Listening) (framing : Framing) (before after : Findings)

/-- A variable between other findings is one variable more. -/
theorem addsVariable_heed (entry : Variable) (notes : List Note) :
    AddsVariable (listening.report.appendAll before.entries).symbols entry notes.length
      (listening.heed source framing (before.append after))
      (listening.heed source framing
        (before.append (.append ⟨[.symbol entry], ⟨1, 0, 0, notes.length⟩, notes⟩ after))) where
  errors := by simp [heed, Findings.append, Report.appendAll, Report.errorsOf]
  warnings := by simp [heed, Findings.append, Report.appendAll, Report.warningsOf]
  symbols := by
    refine ⟨Report.variablesOf after.entries, ?_, ?_⟩ <;>
      simp [heed, Findings.append, Report.appendAll, Report.variablesOf]
  frozen := rfl
  framing := rfl
  tally := by
    simp only [heed, Findings.append, Tally.add, Tally.mk.injEq]
    omega
  records := by
    refine ⟨listening.records ++ before.notes.map (·.logRecord source),
      notes.map (·.logRecord source), after.notes.map (·.logRecord source), ?_, ?_, ?_⟩ <;>
      simp [heed, Findings.append]

/-- Findings with one bad place more, between other ones, are one bad place more. -/
theorem addsBadPlace_heed {said : Findings} {earlier later : List Note}
    (notes : said.notes = earlier ++ later) (note : Note) :
    AddsBadPlace (note.logRecord source)
      (listening.heed source framing (before.append (said.append after)))
      (listening.heed source framing (before.append
        (.append ⟨said.entries, said.tally.add ⟨0, 0, 0, 1⟩,
          earlier ++ note :: later⟩ after))) where
  report := by simp [heed, Findings.append]
  framing := rfl
  tally := by
    simp only [heed, Findings.append, Tally.add, Tally.mk.injEq]
    omega
  records := by
    refine ⟨listening.records ++ (before.notes ++ earlier).map (·.logRecord source),
      (later ++ after.notes).map (·.logRecord source), ?_, ?_⟩ <;>
      simp [heed, Findings.append, notes]

end Heeding

/-- The limits that every release of the reader leaves room for: a minus sign counts as a digit. -/
def strictest : Json.Line.Limits := ⟨200, some 4300, true⟩

/-- The strictest limits are within those of the reader. -/
theorem strictest_within : strictest.Within .ofReader where
  depth := Nat.le_refl 200
  digits := fun _ _ known =>
    ⟨_, rfl, (Nat.sub_le 4300 _).trans (Nat.le_of_eq (Option.some.inj known))⟩

/-- What a line with a variable adds to what comes of a stream, wherever the line stands in it and
in whatever chunks it arrives. It is one variable, with the name and the comment of the record and
with the ranges of those items that are places, in their order; each other item is counted once as a
bad place. To put an item that is no place anywhere into one of the two lists changes nothing but
that one more bad place is counted and noted, as long as the line with the item is still JSON that
is read: nested at most 200 deep and with at most 4300 digits before the point of a number, a minus
sign included. -/
theorem afterCalls_sifts_places (source : String) {report : LintReport}
    (opened : report.frozen = false) {first line second : List UInt8} (stops : StopsAtLine first)
    (single : 0x0A ∉ line) {record : Record} (decoded : decodeLine (lineText line) = .ok record)
    (isVariable : record.kind = "variable") {calls : List OutputCall}
    (given : written calls = first ++ (line ++ 0x0A :: second)) :
    (∃ entry definitions usage, record.name = some entry.name ∧
      entry.comment = normalComment (record.comment.getD "") ∧
      Sifted record.definitions entry.definitions definitions ∧
      Sifted record.usage entry.usage usage ∧
      ∀ others, written others = first ++ second →
        AddsVariable (afterCalls source report [.feed first]).report.symbols entry
          (definitions + usage) (afterCalls source report others)
          (afterCalls source report calls)) ∧
    ∀ role item longer others, (∀ range, ¬ IsPlace item range) →
      Inserts strictest role item (lineText line) (lineText longer) → 0x0A ∉ longer →
      written others = first ++ (longer ++ 0x0A :: second) →
        ∃ fault, placeOf item = .error fault ∧
          AddsBadPlace ((Note.badPlace role (record.name.getD "") item fault).logRecord source)
            (afterCalls source report calls) (afterCalls source report others) := by
  have isRecord := decodeLine_eq_ok_iff_readRecord.mp decoded
  have heard := ofBytes_line source report stops single isRecord second
  rw [← given, ← afterCalls_eq opened] at heard
  refine ⟨?added, ?inserted⟩
  case added =>
    obtain ⟨pairs, -, -, sensible⟩ := readRecord_eq_ok_iff.mp isRecord
    obtain ⟨name, named, -⟩ := sensible.named isVariable
    have symbolName : record.symbol.name = name := by simp [Record.symbol, named]
    refine ⟨record.symbol, _, _, by rw [symbolName, named], rfl,
      sifted_placesOf .definition (record.name.getD "") record.definitions,
      sifted_placesOf .usage (record.name.getD "") record.usage, fun others without => ?_⟩
    have earlier : (afterCalls source report [.feed first]).report.symbols =
        (report.appendAll (saidBy first).entries).symbols := by
      rw [afterCalls_eq opened]
      simp [written, OutputCall.bytes, ofBytes, heed, saidBy]
    have count : record.placeNotes.length =
        (placesOf .definition (record.name.getD "") record.definitions).2.length +
          (placesOf .usage (record.name.getD "") record.usage).2.length := by
      simp [Record.placeNotes]
    rw [earlier, heard, afterCalls_eq opened, without, ofBytes_append source report stops,
      Record.findings_of_variable isVariable, ← count]
    exact addsVariable_heed source ⟨.start, report, []⟩ _ _ _ _ _
  case inserted =>
    intro role item longer others isNone inserts alsoSingle given
    obtain ⟨fault, failed⟩ := exists_placeFault isNone
    obtain ⟨before, after, places, isLonger⟩ := (inserts.widen strictest_within).readRecord isRecord
    obtain ⟨earlier, later, notes, said⟩ := Record.findings_withPlaces isVariable places failed
    refine ⟨fault, failed, ?_⟩
    rw [heard, afterCalls_eq opened, given, ofBytes_line source report stops alsoSingle isLonger,
      said]
    exact addsBadPlace_heed source ⟨.start, report, []⟩ _ _ _ notes _

/-! ### Lists among the uses -/

/-- The bytes of a variable whose uses are lists within lists. -/
def usageBytes (depth : Nat) : List UInt8 :=
  Text.Utf8.encode (objectText (usageMembers depth))

/-- What has come of the line of such a variable alone. -/
def usageHeard (depth : Nat) : Listening :=
  afterCalls "lint" .empty [.feed (usageBytes depth), .close]

section UsageBytes

variable {depth : Nat} (among : depth ∈ [0, 1, 200])

include among

/-- What is written of such a variable stands on one line. -/
theorem usageMembers_plain :
    ∀ c ∈ objectText (usageMembers depth), Text.isLineEnding c = false := by
  have plain : ∀ depth ∈ [0, 1, 200],
      (objectText (usageMembers depth)).all (!Text.isLineEnding ·) = true := by
    decide +kernel
  simpa using plain depth among

/-- The bytes of such a variable are the text of its line. -/
theorem lineText_usageBytes : lineText (usageBytes depth) = objectText (usageMembers depth) :=
  lineText_encode (usageMembers_plain among)

/-- The bytes of such a variable have no newline. -/
theorem newline_notMem_usageBytes : 0x0A ∉ usageBytes depth :=
  newline_notMem_encode (usageMembers_plain among)

end UsageBytes

/-- With a usage that is an empty array, the variable is read without it. -/
theorem readRecord_usageBytes :
    readRecord (lineText (usageBytes 0)) = .ok (variableWith .usage []) := by
  rw [lineText_usageBytes (by decide)]
  exact readRecord_usageMembers (by decide)

/-- A list is put among the uses of a variable without places. -/
theorem afterCalls_sifts_places_list :
    (.empty : LintReport).frozen = false ∧ StopsAtLine [] ∧ 0x0A ∉ usageBytes 0 ∧
    decodeLine (lineText (usageBytes 0)) = .ok (variableWith .usage []) ∧
    (variableWith .usage []).kind = "variable" ∧
    written [.feed (usageBytes 0), .close] = [] ++ (usageBytes 0 ++ 0x0A :: []) ∧
    ∃ fault, placeOf (nestedValue 0) = .error fault ∧
      AddsBadPlace ((Note.badPlace .usage "_x" (nestedValue 0) fault).logRecord "lint")
        (usageHeard 0) (usageHeard 1) := by
  have single : 0x0A ∉ usageBytes 0 := newline_notMem_usageBytes (by decide)
  have alsoSingle : 0x0A ∉ usageBytes 1 := newline_notMem_usageBytes (by decide)
  have decoded : decodeLine (lineText (usageBytes 0)) = .ok (variableWith .usage []) :=
    decodeLine_eq_ok_iff_readRecord.mpr readRecord_usageBytes
  have stops : StopsAtLine [] := .inl rfl
  have opened : (.empty : LintReport).frozen = false := rfl
  have given : written [.feed (usageBytes 0), .close] = [] ++ (usageBytes 0 ++ 0x0A :: []) := rfl
  have inserts : Inserts strictest .usage (nestedValue 0) (lineText (usageBytes 0))
      (lineText (usageBytes 1)) := by
    rw [lineText_usageBytes (by decide), lineText_usageBytes (by decide)]
    exact inserts_usageMembers (by decide)
  have sifts := afterCalls_sifts_places "lint" opened stops single decoded rfl given
  exact ⟨opened, stops, single, decoded, rfl, given,
    sifts.2 .usage (nestedValue 0) (usageBytes 1) [.feed (usageBytes 1), .close]
      (not_isPlace_nestedValue 0) inserts alsoSingle rfl⟩

/-- If lists that are nested too deeply are put among the uses of a variable, the variable is lost
with its whole line. -/
theorem afterCalls_loses_variable :
    (∀ range, ¬ IsPlace (nestedValue 199) range) ∧
    Inserts ⟨201, none, false⟩ .usage (nestedValue 199) (lineText (usageBytes 0))
      (lineText (usageBytes 200)) ∧
    0x0A ∉ usageBytes 0 ∧ 0x0A ∉ usageBytes 200 ∧
    decodeLine (lineText (usageBytes 0)) = .ok (variableWith .usage []) ∧
    (variableWith .usage []).kind = "variable" ∧
    (usageHeard 0).report.symbols = [⟨"_x", "", [], []⟩] ∧
    (usageHeard 0).decoder.tally = ⟨1, 0, 0, 0⟩ ∧
    (usageHeard 200).report.symbols = [] ∧ (usageHeard 200).decoder.tally = ⟨0, 0, 1, 0⟩ := by
  have single : 0x0A ∉ usageBytes 0 := newline_notMem_usageBytes (by decide)
  have alsoSingle : 0x0A ∉ usageBytes 200 := newline_notMem_usageBytes (by decide)
  have deepText := lineText_usageBytes (show 200 ∈ [0, 1, 200] by decide)
  have inserts : Inserts ⟨201, none, false⟩ .usage (nestedValue 199) (lineText (usageBytes 0))
      (lineText (usageBytes 200)) := by
    rw [lineText_usageBytes (by decide), deepText]
    exact inserts_usageMembers (by decide)
  have heard (depth : Nat) : usageHeard depth =
      heed "lint" ⟨.start, .empty, []⟩ (Framing.start.feed (usageBytes depth ++ [0x0A])).1
        (saidBy (usageBytes depth ++ [0x0A])) := by
    rw [usageHeard, afterCalls_eq rfl]
    rfl
  have said : saidBy (usageBytes 0 ++ [0x0A]) = (variableWith .usage []).findings :=
    saidBy_record single readRecord_usageBytes
  have tooDeep : Json.Line.Limits.ofReader.depth < 1 + 200 := by decide
  obtain ⟨note, malformed⟩ := readLine_usageMembers tooDeep
  have saidDeep : saidBy (usageBytes 200 ++ [0x0A]) = ⟨[], ⟨0, 0, 1, 0⟩, [note]⟩ := by
    rw [saidBy_line alsoSingle (deepText ▸ List.cons_ne_nil _ _), deepText, malformed]
  refine ⟨not_isPlace_nestedValue 199, inserts, single, alsoSingle,
    decodeLine_eq_ok_iff_readRecord.mpr readRecord_usageBytes, rfl, ?_, ?_, ?_, ?_⟩
  · rw [heard, said]
    rfl
  · rw [heard, said]
    rfl
  · rw [heard, saidDeep]
    rfl
  · rw [heard, saidDeep]
    rfl

end Run.Listening

end LintClient
