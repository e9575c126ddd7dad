import LintClient.Proofs.Protocol.Sifting
import LintClient.Proofs.Report.Collecting
import LintClient.Proofs.Run.Isolation

/-!
# Decoding for a frozen report

A decoder whose report is frozen is stopped by the first line with an entry, in the middle of a
call. What has been counted and logged by then is that of the lines before it, and the bad places of
its record; what stands behind it on the same call is lost. But the unfinished line is kept, so that
later calls go on with it (`Collector.decode_stops_at_entry`).
-/

namespace LintClient

namespace Protocol

open Run (OutputCall)

/-! ## Completed lines -/

/-- The text is the lines, each with a newline behind it, and the rest. -/
structure Cuts (text : List Char) (lines : List (List Char)) (rest : List Char) : Prop where
  text : text = lines.flatMap (· ++ ['\n']) ++ rest
  lines : ∀ line ∈ lines, '\n' ∉ line
  rest : '\n' ∉ rest

/-- A call completes the lines and leaves the framing. A chunk goes on with the unfinished line; at
the end of the output this line is completed as it stands. -/
inductive Completes (framing : Framing) : OutputCall → List (List Char) → Framing → Prop where
  | feed {chunk : List UInt8} {lines : List (List Char)} {rest : List Char}
      (cuts : Cuts (framing.tail ++
        (Text.Utf8.run framing.pending chunk).2.map Text.Utf8.Segment.lossy) lines rest) :
      Completes framing (.feed chunk) lines ⟨(Text.Utf8.run framing.pending chunk).1, rest⟩
  | close : Completes framing .close
      [framing.tail ++ (Text.Utf8.finish framing.pending).map Text.Utf8.Segment.lossy] ⟨.none, []⟩

/-- A text is cut in one way. -/
theorem Cuts.cut_eq {text rest : List Char} {lines : List (List Char)}
    (cuts : Cuts text lines rest) : Framing.cut text = (lines, rest) := by
  obtain ⟨rfl, noNewline, restPlain⟩ := cuts
  have pieces : Text.splitAt '\n' (lines.flatMap (· ++ ['\n']) ++ rest) = lines ++ [rest] := by
    rw [Text.splitAt_eq_splitOn]
    induction lines with
    | nil => exact List.splitOn_eq_singleton restPlain
    | cons line lines inductionHypothesis =>
        obtain ⟨first, others⟩ := List.forall_mem_cons.mp noNewline
        rw [List.flatMap_cons, List.append_assoc, List.append_assoc, List.singleton_append,
          List.splitOn_append_cons_self_of_not_mem first, inductionHypothesis others]
        rfl
  simp [Framing.cut, pieces]

/-- Every text can be cut. -/
theorem exists_cuts (text : List Char) : ∃ lines rest, Cuts text lines rest := by
  induction text with
  | nil => exact ⟨[], [], rfl, nofun, nofun⟩
  | cons c text inductionHypothesis =>
      obtain ⟨lines, rest, split, noNewline, restPlain⟩ := inductionHypothesis
      by_cases newline : c = '\n'
      · refine ⟨[] :: lines, rest, ?_, List.forall_mem_cons.mpr ⟨nofun, noNewline⟩, restPlain⟩
        rw [newline, split]
        rfl
      · cases lines with
        | nil =>
            refine ⟨[], c :: rest, by rw [split]; rfl, nofun, ?_⟩
            simp [Ne.symm newline, restPlain]
        | cons line lines =>
            obtain ⟨first, others⟩ := List.forall_mem_cons.mp noNewline
            refine ⟨(c :: line) :: lines, rest, by rw [split]; rfl, ?_, restPlain⟩
            refine List.forall_mem_cons.mpr ⟨?_, others⟩
            simp [Ne.symm newline, first]

/-- Which lines a call completes is determined by the unfinished line. -/
theorem completes_iff {framing next : Framing} {call : OutputCall} {lines : List (List Char)} :
    Completes framing call lines next ↔ framing.call call = (next, lines) := by
  constructor
  · intro completes
    cases completes with
    | feed cuts => simp only [Framing.call, Framing.feed, cuts.cut_eq]
    | close => rfl
  · intro called
    cases call with
    | feed chunk =>
        obtain ⟨cutLines, rest, cuts⟩ := exists_cuts (framing.tail ++
          (Text.Utf8.run framing.pending chunk).2.map Text.Utf8.Segment.lossy)
        have completes : Completes framing (.feed chunk) cutLines _ := .feed cuts
        simp only [Framing.call, Framing.feed, cuts.cut_eq, Prod.mk.injEq] at called
        obtain ⟨rfl, rfl⟩ := called
        exact completes
    | close =>
        cases called
        exact .close

/-! ## Lines without an entry -/

/-- The line decodes to a record that gives an entry. -/
def GivesEntry (line : List Char) : Prop :=
  ∃ record, decodeLine (Text.strip Text.isLineEnding line) = .ok record ∧
    record.kind ∈ ["error", "warning", "variable"]

/-- The lines give no entry: so many are skipped and so many malformed, and this is logged. Empty
lines are passed over. -/
inductive Silent (source : String) : List (List Char) → Nat → Nat → List LogRecord → Prop where
  | nil : Silent source [] 0 0 []
  | empty {line : List Char} {lines : List (List Char)} {skipped malformed : Nat}
      {records : List LogRecord} (isEmpty : Text.strip Text.isLineEnding line = [])
      (rest : Silent source lines skipped malformed records) :
      Silent source (line :: lines) skipped malformed records
  | skipped {line : List Char} {lines : List (List Char)} {skipped malformed : Nat}
      {records : List LogRecord} {record : Record}
      (decoded : decodeLine (Text.strip Text.isLineEnding line) = .ok record)
      (unknown : record.kind ∉ ["error", "warning", "variable"])
      (rest : Silent source lines skipped malformed records) :
      Silent source (line :: lines) (skipped + 1) malformed
        (.about source .trace ("Ignoring record type: " ++ record.kind) :: records)
  | malformed {line : List Char} {lines : List (List Char)} {skipped malformed : Nat}
      {records : List LogRecord} {refusal : Refusal}
      (some : Text.strip Text.isLineEnding line ≠ [])
      (refused : decodeLine (Text.strip Text.isLineEnding line) = .error refusal)
      (rest : Silent source lines skipped malformed records) :
      Silent source (line :: lines) skipped (malformed + 1)
        (.about source .warning ("Failed to parse response: >" ++
          String.ofList (Text.strip Text.isLineEnding line) ++ "< (" ++ refusal.reason ++ ")") ::
            records)

/-- Lines of which none gives an entry are skipped or malformed. -/
theorem exists_silent (source : String) {lines : List (List Char)}
    (without : ∀ line ∈ lines, ¬ GivesEntry line) :
    ∃ skipped malformed records, Silent source lines skipped malformed records := by
  induction lines with
  | nil => exact ⟨0, 0, [], .nil⟩
  | cons line lines inductionHypothesis =>
      obtain ⟨first, others⟩ := List.forall_mem_cons.mp without
      obtain ⟨skipped, malformed, records, rest⟩ := inductionHypothesis others
      cases decoded : decodeLine (Text.strip Text.isLineEnding line) with
      | ok record =>
          exact ⟨_, _, _, .skipped decoded (fun known => first ⟨record, decoded, known⟩) rest⟩
      | error refusal =>
          by_cases isEmpty : Text.strip Text.isLineEnding line = []
          · exact ⟨_, _, _, .empty isEmpty rest⟩
          · exact ⟨_, _, _, .malformed isEmpty decoded rest⟩

/-- Lines without an entry say how many of them are skipped or malformed, and what is logged. -/
theorem Silent.readLines_eq {source : String} {lines : List (List Char)} {skipped malformed : Nat}
    {records : List LogRecord} (silent : Silent source lines skipped malformed records) :
    ∃ notes, readLines (contentLines lines) = ⟨[], ⟨0, skipped, malformed, 0⟩, notes⟩ ∧
      notes.map (·.logRecord source) = records := by
  induction silent with
  | nil => exact ⟨[], rfl, rfl⟩
  | empty isEmpty _ inductionHypothesis =>
      rw [contentLines_cons, if_pos isEmpty]
      exact inductionHypothesis
  | @skipped line _ skipped malformed _ record decoded unknown _ inductionHypothesis =>
      obtain ⟨notes, said, logged⟩ := inductionHypothesis
      have isRecord := decodeLine_eq_ok_iff_readRecord.mp decoded
      refine ⟨.unknownKind record.kind :: notes, ?_, by rw [List.map_cons, logged]; rfl⟩
      rw [contentLines_cons, if_neg (ne_nil_of_readRecord isRecord), readLines_cons, said,
        readLine_of_decodeLine decoded]
      simp [Record.findings_of_unknownKind unknown, Findings.append, Tally.add, Nat.add_comm]
  | @malformed line _ skipped malformed _ refusal some refused _ inductionHypothesis =>
      obtain ⟨notes, said, logged⟩ := inductionHypothesis
      rw [decodeLine_eq] at refused
      obtain ⟨fault, broken, rfl⟩ := mapError_eq_error.mp refused
      refine ⟨.malformedLine _ fault :: notes, ?_, by rw [List.map_cons, logged]; rfl⟩
      rw [contentLines_cons, if_neg some, readLines_cons, said, readLine, broken]
      simp [Findings.append, Tally.add, Nat.add_comm]

/-- None of the lines without an entry says one. -/
theorem Silent.entries_eq_nil {source : String} {lines : List (List Char)} {skipped malformed : Nat}
    {records : List LogRecord} (silent : Silent source lines skipped malformed records) :
    ∀ said ∈ (contentLines lines).map readLine, said.entries = [] := by
  obtain ⟨notes, said, -⟩ := silent.readLines_eq
  rw [← List.flatMap_eq_nil_iff, ← Findings.entries_concat]
  exact congrArg Findings.entries said

/-- Every line without an entry that holds something is skipped or malformed. -/
theorem Silent.counted {source : String} {lines : List (List Char)} {skipped malformed : Nat}
    {records : List LogRecord} (silent : Silent source lines skipped malformed records) :
    skipped + malformed = (contentLines lines).length := by
  obtain ⟨notes, said, -⟩ := silent.readLines_eq
  have counted := (accounts_readLines (contentLines lines)).counted
  rw [said] at counted
  simpa using counted

/-! ## The refused line -/

/-- So many items of a record are no places. Only the items of a variable are looked at. -/
inductive BadPlaces (record : Record) : Nat → Prop where
  | variable {ranges : List Range} {badPlaces : Nat} (isVariable : record.kind = "variable")
      (sifted : Sifted (record.definitions ++ record.usage) ranges badPlaces) :
      BadPlaces record badPlaces
  | other (notVariable : record.kind ≠ "variable") : BadPlaces record 0

/-- The bad places of a record are counted. -/
theorem badPlaces_findings (record : Record) :
    BadPlaces record record.findings.tally.badPlaces := by
  by_cases isVariable : record.kind = "variable"
  · rw [Record.findings_of_variable isVariable, Record.placeNotes, List.length_append]
    exact .variable isVariable ((sifted_placesOf .definition (record.name.getD "") _).append
      (sifted_placesOf .usage (record.name.getD "") _))
  · have none : record.findings.tally.badPlaces = 0 := by
      unfold Record.findings
      split_ifs <;> rfl
    rw [none]
    exact .other isVariable

/-- A record of a known kind gives an entry. -/
theorem Record.entries_of_knownKind {record : Record}
    (known : record.kind ∈ ["error", "warning", "variable"]) : record.findings.entries ≠ [] := by
  simp only [List.mem_cons, List.not_mem_nil, or_false] at known
  rcases known with kind | kind | kind <;> simp [entries_findings, entry?, kind]

namespace Decoder

/-- Findings without an entry all count. -/
theorem upToRefusal_of_silent {findings : List Findings}
    (silent : ∀ said ∈ findings, said.entries = []) :
    upToRefusal findings = (.concat findings, false) := by
  have all : ∀ said ∈ findings, said.entries.isEmpty = true := by simpa using silent
  simp only [upToRefusal, List.span_eq_takeWhile_dropWhile, List.takeWhile_eq_self_iff.mpr all,
    List.dropWhile_eq_nil_iff.mpr all]

/-- The first findings with an entry are refused. Those behind them do not count. -/
theorem upToRefusal_of_entry {before after : List Findings} {said : Findings}
    (silent : ∀ other ∈ before, other.entries = []) (some : said.entries ≠ []) :
    upToRefusal (before ++ said :: after) =
      ((Findings.concat before).append ⟨[], ⟨0, 0, 0, said.tally.badPlaces⟩, said.notes⟩,
        true) := by
  have all : ∀ other ∈ before, other.entries.isEmpty = true := by simpa using silent
  have taken : (said :: after).takeWhile (fun other : Findings => other.entries.isEmpty) = [] :=
    List.takeWhile_cons_of_neg (by simpa using some)
  have left : (said :: after).dropWhile (fun other : Findings => other.entries.isEmpty) =
      said :: after := List.dropWhile_cons_of_neg (by simpa using some)
  simp only [upToRefusal, List.span_eq_takeWhile_dropWhile, List.takeWhile_append_of_pos all,
    List.dropWhile_append_of_pos all, taken, left, List.append_nil]

/-- A call delivers what its lines say. -/
theorem call_eq_deliver {decoder : Decoder} {call : OutputCall} {lines : List (List Char)}
    {next : Framing} (completes : Completes decoder.framing call lines next) (frozen : Bool) :
    decoder.call frozen call = decoder.deliver frozen next lines := by
  have called := completes_iff.mp completes
  cases call with
  | feed chunk =>
      simp only [Framing.call] at called
      simp only [Decoder.call, Decoder.feed, called]
  | close =>
      simp only [Framing.call] at called
      simp only [Decoder.call, Decoder.close, called]

end Decoder

end Protocol

namespace Unchecked

open Json.Line (objectText nestedValue)
open Protocol
open Run (OutputCall)

namespace Collector

/-- What a call on a decoder of a report comes to: the answer, and of the decoder the unfinished
line, what has been counted and what has been logged. The report and all other decoders are as
before. -/
structure ComesTo (collector : Collector) (name : String) (call : OutputCall) (source : String)
    (answer : Answer) (next : Framing) (counted : Tally) (records : List LogRecord) : Prop where
  answer : (collector.perform (.decode name call)).2 = answer
  report : (collector.perform (.decode name call)).1.report = collector.report
  decoder : (collector.perform (.decode name call)).1.decoders name =
    ⟨next, (collector.decoders name).tally.add counted⟩
  others : ∀ other, other ≠ name →
    (collector.perform (.decode name call)).1.decoders other = collector.decoders other
  log : ((collector.decoders name).call collector.report.frozen call).2.notes.map
    (·.logRecord source) = records

/-- A call comes to what its lines say up to a refusal. -/
theorem comesTo_of_upToRefusal {collector : Collector} {name : String} {call : OutputCall}
    (source : String) (ended : collector.report.frozen = true) {lines : List (List Char)}
    {next : Framing} (completes : Completes (collector.decoders name).framing call lines next)
    {said : Findings} {refused : Bool}
    (counted : Decoder.upToRefusal ((contentLines lines).map readLine) = (said, refused)) :
    ComesTo collector name call source (if refused then .refused else .done) next said.tally
      (said.notes.map (·.logRecord source)) := by
  have delivered : (collector.decoders name).call collector.report.frozen call =
      (⟨next, (collector.decoders name).tally.add said.tally⟩,
        ⟨said.entries, said.notes, refused⟩) := by
    rw [Decoder.call_eq_deliver completes, ended]
    simp only [Decoder.deliver, counted, ↓reduceIte]
  constructor
  · simp only [perform, delivered]
  · exact (collector.continues_perform (.decode name call)).frozen ended
  · simp only [perform, delivered, Function.update_self]
  · intro other different
    simp only [perform, delivered, Function.update_of_ne different]
  · simp only [delivered]

/-- A decoder whose report is frozen goes on line by line until an entry is refused, and the report
stays as it is. If no completed line gives an entry, every line that holds something is counted as
malformed or as skipped. Otherwise the call is refused at the first line with an entry. By then the
lines before it have been counted and logged, and of the refused record the bad places, if it is a
variable; the record itself is not counted, and the lines behind it leave no trace. In any case what
remains of the text is kept as the unfinished line, and the end of the output leaves nothing. -/
theorem decode_stops_at_entry (collector : Collector) (ended : collector.report.frozen = true)
    (name : String) (call : OutputCall) (source : String) :
    ∃ lines next,
      (∀ others after, Completes (collector.decoders name).framing call others after ↔
        others = lines ∧ after = next) ∧
      ((∀ line ∈ lines, ¬ GivesEntry line) → ∃ skipped malformed records,
        Silent source lines skipped malformed records ∧
        skipped + malformed = (contentLines lines).length ∧
        ComesTo collector name call source .done next ⟨0, skipped, malformed, 0⟩ records) ∧
      ∀ before line after record, lines = before ++ line :: after →
        (∀ other ∈ before, ¬ GivesEntry other) →
        decodeLine (Text.strip Text.isLineEnding line) = .ok record →
        record.kind ∈ ["error", "warning", "variable"] → ∃ skipped malformed badPlaces records,
          Silent source before skipped malformed records ∧ BadPlaces record badPlaces ∧
          ComesTo collector name call source .refused next ⟨0, skipped, malformed, badPlaces⟩
            (records ++ record.findings.notes.map (·.logRecord source)) := by
  rcases called : (collector.decoders name).framing.call call with ⟨next, lines⟩
  have completes := completes_iff.mpr called
  refine ⟨lines, next, ?unique, ?silent, ?entry⟩
  case unique =>
    intro others after
    rw [completes_iff, called, Prod.mk.injEq, and_comm, eq_comm, @eq_comm _ next]
  case silent =>
    intro without
    obtain ⟨skipped, malformed, records, silent⟩ := exists_silent source without
    obtain ⟨notes, said, logged⟩ := silent.readLines_eq
    have counted := Decoder.upToRefusal_of_silent silent.entries_eq_nil
    rw [← readLines, said] at counted
    have comesTo := comesTo_of_upToRefusal source ended completes counted
    rw [logged] at comesTo
    exact ⟨skipped, malformed, records, silent, silent.counted, comesTo⟩
  case entry =>
    rintro before line after record rfl without decoded known
    obtain ⟨skipped, malformed, records, silent⟩ := exists_silent source without
    obtain ⟨notes, said, logged⟩ := silent.readLines_eq
    have isRecord := decodeLine_eq_ok_iff_readRecord.mp decoded
    have content : contentLines (before ++ line :: after) =
        contentLines before ++ Text.strip Text.isLineEnding line :: contentLines after := by
      rw [contentLines_append, contentLines_cons, if_neg (ne_nil_of_readRecord isRecord)]
    have counted : Decoder.upToRefusal ((contentLines (before ++ line :: after)).map readLine) =
        (⟨[], ⟨0, skipped, malformed, record.findings.tally.badPlaces⟩,
          notes ++ record.findings.notes⟩, true) := by
      rw [content, List.map_append, List.map_cons, readLine_of_decodeLine decoded,
        Decoder.upToRefusal_of_entry silent.entries_eq_nil (Record.entries_of_knownKind known),
        ← readLines, said]
      simp [Findings.append, Tally.add]
    have comesTo := comesTo_of_upToRefusal source ended completes counted
    rw [List.map_append, logged] at comesTo
    exact ⟨skipped, malformed, _, records, silent, badPlaces_findings record, comesTo⟩

/-! ### A refused variable -/

/-- A text that is no JSON, a variable with a bad place, another text that is no JSON, and an
unfinished line. -/
def refusedChunk : List UInt8 :=
  Text.Utf8.encode (['x', '\n'] ++ objectText (usageMembers 1) ++ ['\n', 'y', '\n', 'z'])

/-- A collector whose report is frozen. -/
def ended : Collector :=
  ⟨LintClient.Report.empty.freeze, fun _ => .start⟩

/-- The chunk completes three lines, of which the second one is a record, and opens a fourth one. -/
theorem completes_refusedChunk : Completes Framing.start (.feed refusedChunk)
    [['x'], objectText (usageMembers 1), ['y']] ⟨.none, ['z']⟩ := by
  rw [completes_iff]
  decide +kernel

/-- A letter alone is no record. -/
theorem not_givesEntry_letter : ¬ GivesEntry ['x'] := by
  rintro ⟨record, decoded, -⟩
  have content : Text.strip Text.isLineEnding ['x'] = ['x'] := by decide
  have refused :
      Json.Line.value .ofReader 0 (Json.skipGap ['x']) = .error ⟨.expectedValue, ['x']⟩ := by
    rw [Json.Line.value.eq_def]
    rfl
  rw [content, decodeLine_eq_ok_iff_readRecord] at decoded
  simp only [readRecord, readRecordWithin, Json.Line.document, refused] at decoded
  cases decoded

/-- The variable is refused. Its bad place is counted, and so is the line before it, but not the
line behind it; the unfinished line is kept. -/
theorem decode_stops_at_entry_variable :
    ended.report.frozen = true ∧
    ∃ skipped malformed badPlaces records record, Silent "lint" [['x']] skipped malformed records ∧
      BadPlaces record badPlaces ∧ record.kind = "variable" ∧ record.usage = [nestedValue 0] ∧
      ComesTo ended "main" (.feed refusedChunk) "lint" .refused ⟨.none, ['z']⟩
        ⟨0, skipped, malformed, badPlaces⟩
        (records ++ record.findings.notes.map (·.logRecord "lint")) := by
  have frozen : ended.report.frozen = true := rfl
  obtain ⟨lines, next, unique, -, refuses⟩ :=
    decode_stops_at_entry ended frozen "main" (.feed refusedChunk) "lint"
  obtain ⟨rfl, rfl⟩ := (unique _ _).mp completes_refusedChunk
  have content : Text.strip Text.isLineEnding (objectText (usageMembers 1)) =
      objectText (usageMembers 1) := by decide +kernel
  have decoded : decodeLine (Text.strip Text.isLineEnding (objectText (usageMembers 1))) =
      .ok (variableWith .usage [nestedValue 0]) := by
    rw [content, decodeLine_eq_ok_iff_readRecord]
    exact readRecord_usageMembers (by decide)
  obtain ⟨skipped, malformed, badPlaces, records, silent, bad, comesTo⟩ :=
    refuses [['x']] (objectText (usageMembers 1)) [['y']] _ rfl
      (List.forall_mem_singleton.mpr not_givesEntry_letter) decoded (by decide)
  exact ⟨frozen, skipped, malformed, badPlaces, records, _, silent, bad, rfl, rfl, comesTo⟩

end Collector

end Unchecked

end LintClient
