import LintClient.Proofs.Protocol.Framing
import LintClient.Proofs.Text.Utf8.Reading
import LintClient.Run.Listening

/-!
# Output in any chunks

What is heard of a child's output is a function of its bytes: `Listening.afterCalls_eq` gives it for
every sequence of chunks and ends. After an end nothing of the stream is left in the decoder, and
what has been heard is what a reader of the whole text takes from it at once.
-/

namespace LintClient

namespace Protocol

open Run

/-! ## Findings in order -/

namespace Findings

/-- Findings are put together in any grouping. -/
theorem append_assoc (first second third : Findings) :
    (first.append second).append third = first.append (second.append third) := by
  simp [append, Tally.add, Nat.add_assoc]

/-- Nothing found is put before findings without a trace. -/
@[simp] theorem empty_append (findings : Findings) : empty.append findings = findings := by
  simp [append, empty, Tally.add, Tally.zero]

/-- Several findings and others are put together part by part. -/
theorem concat_append (first second : List Findings) :
    concat (first ++ second) = (concat first).append (concat second) := by
  induction first with
  | nil => simp [concat]
  | cons findings rest inductionHypothesis =>
      simp only [concat, List.cons_append, List.foldr_cons] at inductionHypothesis ⊢
      rw [inductionHypothesis, append_assoc]

end Findings

/-- What lines say is what the first part says, followed by what the second part says. -/
theorem readLines_append (first second : List (List Char)) :
    readLines (first ++ second) = (readLines first).append (readLines second) := by
  rw [readLines, List.map_append, Findings.concat_append]
  rfl

end Protocol

/-- Appending entries in two steps appends all of them. -/
theorem Report.appendAll_append {δ ν : Type} (report : Report δ ν)
    (first second : List (Entry δ ν)) :
    report.appendAll (first ++ second) = (report.appendAll first).appendAll second := by
  simp [appendAll, errorsOf, warningsOf, variablesOf]

/-- Appending no entries changes nothing. -/
theorem Report.appendAll_nil {δ ν : Type} (report : Report δ ν) : report.appendAll [] = report := by
  simp [appendAll, errorsOf, warningsOf, variablesOf]

namespace Run

open Protocol (Framing Findings readLines contentLines)

/-- What is done with a decoder: it is fed a chunk, or told of the end of the output. -/
inductive OutputCall where
  | feed (chunk : List UInt8)
  | close
deriving DecidableEq, Repr

/-- The bytes that a call stands for. The end of the output stands for a newline. -/
def OutputCall.bytes : OutputCall -> List UInt8
  | .feed chunk => chunk
  | .close => [0x0A]

/-- The bytes that calls stand for, in order. -/
def written (calls : List OutputCall) : List UInt8 :=
  calls.flatMap OutputCall.bytes

namespace Listening

/-- What a call on the decoder comes to. -/
def call (source : String) (listening : Listening) (call : OutputCall) : Listening :=
  let (decoder, delivery) := match call with
    | .feed chunk => listening.decoder.feed listening.report.frozen chunk
    | .close => listening.decoder.close listening.report.frozen
  listening.take source decoder delivery

/-- While a run goes on its report is open, and a chunk that is fed is output that is heard. -/
theorem hear_output {listening : Listening} (opened : listening.report.frozen = false)
    (source : String) (chunk : List UInt8) :
    listening.hear source (.output chunk) = listening.call source (.feed chunk) := by
  simp [hear, call, opened]

/-- The same goes for the end of the output. -/
theorem close_eq_call {listening : Listening} (opened : listening.report.frozen = false)
    (source : String) : listening.close source = listening.call source .close := by
  simp [close, call, opened]

/-- What has come of calls on a fresh decoder for a report. -/
def afterCalls (source : String) (report : LintReport) (calls : List OutputCall) : Listening :=
  calls.foldl (call source) ⟨.start, report, []⟩

/-- What a reader of a whole text takes from it at once: the text is split at newlines, carriage
returns and newlines around a line are dropped, and each line that holds something is read. -/
def ofText (source : String) (report : LintReport) (text : List Char) : Listening :=
  let said := readLines (contentLines (text.splitOn '\n'))
  ⟨⟨.start, said.tally⟩,
    ⟨report.errors ++ Report.errorsOf said.entries,
      report.warnings ++ Report.warningsOf said.entries,
      report.symbols ++ Report.variablesOf said.entries, false⟩,
    said.notes.map fun note => note.logRecord source⟩

/-- What has come of two decoders, the second of which went on with the report of the first. -/
def followedBy (first second : Listening) : Listening :=
  ⟨⟨second.decoder.framing, first.decoder.tally.add second.decoder.tally⟩, second.report,
    first.records ++ second.records⟩

/-- Take up what lines say and leave the decoder with the given framing. -/
def heed (source : String) (listening : Listening) (framing : Framing) (said : Findings) :
    Listening :=
  ⟨⟨framing, listening.decoder.tally.add said.tally⟩, listening.report.appendAll said.entries,
    listening.records ++ said.notes.map fun note => note.logRecord source⟩

/-- To heed what a decoder says leaves the framing of lines as it was set. -/
@[simp] theorem heed_framing (source : String) (listening : Listening) (framing : Framing)
    (said : Findings) : (listening.heed source framing said).decoder.framing = framing := rfl

/-- A chunk comes to what its lines say. -/
theorem call_feed {listening : Listening} (opened : listening.report.frozen = false)
    (source : String) (chunk : List UInt8) :
    listening.call source (.feed chunk) =
      listening.heed source (listening.decoder.framing.feed chunk).1
        (readLines (contentLines (listening.decoder.framing.feed chunk).2)) := by
  simp only [call, opened]
  rfl

/-- Between newlines the end of the output comes to what a newline comes to. -/
theorem call_close {listening : Listening} (opened : listening.report.frozen = false)
    (source : String) (oneLine : listening.decoder.framing.OneLine) :
    listening.call source .close = listening.call source (.feed [0x0A]) := by
  have closed := Framing.close_eq_feed_newline oneLine
  have ended : listening.call source .close =
      listening.heed source listening.decoder.framing.close.1
        (readLines (contentLines listening.decoder.framing.close.2)) := by
    simp only [call, opened]
    rfl
  rw [ended, closed, call_feed opened]

/-- What comes of two steps is what is said in both. -/
theorem heed_heed (source : String) (listening : Listening) (framing later : Framing)
    (first second : Findings) :
    (listening.heed source framing first).heed source later second =
      listening.heed source later (first.append second) := by
  simp [heed, Findings.append, Report.appendAll_append, Protocol.Tally.add, Nat.add_assoc]

/-- What has come of bytes, however they were cut. -/
def ofBytes (source : String) (report : LintReport) (bytes : List UInt8) : Listening :=
  heed source ⟨.start, report, []⟩ (Framing.start.feed bytes).1
    (readLines (contentLines (Framing.start.feed bytes).2))

section OpenReport

variable {report : LintReport} (opened : report.frozen = false)

include opened

/-- A further chunk continues the bytes. -/
theorem ofBytes_call_feed (source : String) (bytes chunk : List UInt8) :
    (ofBytes source report bytes).call source (.feed chunk) =
      ofBytes source report (bytes ++ chunk) := by
  have stillOpen : (ofBytes source report bytes).report.frozen = false := opened
  rw [call_feed stillOpen, ofBytes, heed_framing, heed_heed, ofBytes, Framing.feed_append,
    Protocol.contentLines_append, Protocol.readLines_append]

/-- What has come of calls depends on the bytes alone. -/
theorem afterCalls_eq (source : String) (calls : List OutputCall) :
    afterCalls source report calls = ofBytes source report (written calls) := by
  induction calls using List.reverseRecOn with
  | nil =>
      have silent : readLines (contentLines []) = .empty := rfl
      rw [ofBytes, written, List.flatMap_nil, Framing.feed_nil Framing.oneLine_start, silent]
      simp [afterCalls, heed, Findings.empty, Report.appendAll_nil, Protocol.Decoder.start,
        Protocol.Tally.add, Protocol.Tally.zero]
  | append_singleton earlier last inductionHypothesis =>
      have stepped : afterCalls source report (earlier ++ [last]) =
          (ofBytes source report (written earlier)).call source last := by
        rw [afterCalls, List.foldl_append, ← inductionHypothesis]
        rfl
      have bytes : written (earlier ++ [last]) = written earlier ++ last.bytes := by
        simp [written]
      rw [stepped, bytes]
      cases last with
      | feed chunk => exact ofBytes_call_feed opened source (written earlier) chunk
      | close =>
          have stillOpen : (ofBytes source report (written earlier)).report.frozen = false := opened
          have oneLine : (ofBytes source report (written earlier)).decoder.framing.OneLine :=
            Framing.oneLine_feed Framing.start (written earlier)
          -- The decoder stands between newlines, so the end of the output is one more of them.
          rw [call_close stillOpen source oneLine]
          exact ofBytes_call_feed opened source (written earlier) [0x0A]

/-- After a newline everything has come that a reader of the whole text takes from it. -/
theorem ofBytes_newline (source : String) (bytes : List UInt8) :
    ofBytes source report (bytes ++ [0x0A]) =
      ofText source report (Text.Utf8.decodeLossy (bytes ++ [0x0A])) := by
  have lines : contentLines ((Text.Utf8.decodeLossy (bytes ++ [0x0A])).splitOn '\n') =
      contentLines (Text.splitAt '\n' (Text.Utf8.decodeLossy bytes)) := by
    rw [Text.Utf8.decodeLossy_newline, List.splitOn_append_cons_self, List.splitOn_nil,
      Protocol.contentLines_append, Protocol.contentLines_nil_line, List.append_nil,
      Text.splitAt_eq_splitOn]
  rw [ofBytes, Framing.feed_start_newline, ofText, lines]
  simp [heed, opened, Report.appendAll, Protocol.Decoder.start, Protocol.Tally.add,
    Protocol.Tally.zero]

end OpenReport

/-- Behind a newline a decoder reads as if it were a fresh one. -/
theorem ofBytes_append_of_newline (source : String) (report : LintReport)
    (bytes later : List UInt8) :
    ofBytes source report (bytes ++ [0x0A] ++ later) =
      (ofBytes source report (bytes ++ [0x0A])).followedBy
        (ofBytes source (ofBytes source report (bytes ++ [0x0A])).report later) := by
  simp only [ofBytes, Framing.feed_append Framing.start (bytes ++ [0x0A]) later,
    Framing.feed_start_newline, Protocol.contentLines_append, Protocol.readLines_append]
  simp [heed, followedBy, Findings.append, Report.appendAll_append, Protocol.Decoder.start,
    Protocol.Tally.add, Protocol.Tally.zero]

/-- Once the end of the output has come, however the output was cut into chunks and whatever ends
came before, everything taken from it is what a reader of the whole text takes from it at once, with
a newline in the place of each end. So sequences of calls that stand for the same bytes cannot be
told apart, an end acts as a newline does, and the decoder goes on as a fresh one would. -/
theorem afterCalls_closed (source : String) {report : LintReport} (opened : report.frozen = false)
    (calls : List OutputCall) :
    (∃ text, Text.Utf8.Reads (written (calls ++ [OutputCall.close])) text ∧
      (∀ other, Text.Utf8.Reads (written (calls ++ [OutputCall.close])) other → other = text) ∧
      afterCalls source report (calls ++ [OutputCall.close]) = ofText source report text) ∧
    (∀ others, written others = written calls →
      afterCalls source report others = afterCalls source report calls) ∧
    (∀ later, afterCalls source report (calls ++ OutputCall.close :: later) =
      afterCalls source report (calls ++ OutputCall.feed [0x0A] :: later)) ∧
    (∀ later, afterCalls source report (calls ++ OutputCall.close :: later) =
      (afterCalls source report (calls ++ [OutputCall.close])).followedBy
        (afterCalls source
          (afterCalls source report (calls ++ [OutputCall.close])).report later)) := by
  have closed : written (calls ++ [OutputCall.close]) = written calls ++ [0x0A] := by
    simp [written, OutputCall.bytes]
  have continued : ∀ later,
      written (calls ++ OutputCall.close :: later) = written calls ++ [0x0A] ++ written later := by
    intro later
    simp [written, OutputCall.bytes]
  refine ⟨?reference, ?sameBytes, ?newline, ?reuse⟩
  case reference =>
    have heard := ofBytes_newline opened source (written calls)
    rw [← closed, ← afterCalls_eq opened] at heard
    exact ⟨_, Text.Utf8.reads_decodeLossy _, fun other reads => reads.eq_decodeLossy, heard⟩
  case sameBytes =>
    intro others same
    rw [afterCalls_eq opened, afterCalls_eq opened, same]
  case newline =>
    intro later
    have newline : written (calls ++ OutputCall.feed [0x0A] :: later) =
        written (calls ++ OutputCall.close :: later) := by
      simp [written, OutputCall.bytes]
    rw [afterCalls_eq opened, afterCalls_eq opened, newline]
  case reuse =>
    intro later
    have stillOpen :
        (afterCalls source report (calls ++ [OutputCall.close])).report.frozen = false := by
      rw [afterCalls_eq opened]
      exact opened
    rw [afterCalls_eq stillOpen, afterCalls_eq opened, afterCalls_eq opened, continued, closed,
      ofBytes_append_of_newline]

/-- A character that is cut in two, with a stray byte behind it, is read as if it were whole. -/
theorem afterCalls_split_character :
    (.empty : LintReport).frozen = false ∧
      afterCalls "lint" .empty [.feed [0xC3], .feed [0xA4, 0xFF], .close] =
        afterCalls "lint" .empty [.feed [], .feed [0xC3, 0xA4], .feed [0xFF], .close] :=
  ⟨rfl, (afterCalls_closed "lint" rfl
    [.feed [], .feed [0xC3, 0xA4], .feed [0xFF], .close]).2.1 _ (by decide)⟩

end Listening

end Run

end LintClient
