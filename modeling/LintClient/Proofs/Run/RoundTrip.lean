import LintClient.Proofs.Protocol.Rendering
import LintClient.Proofs.Run.Chunking

/-!
# Entries there and back

A linter that writes the record of each entry on a line of its own is understood: whatever its style
of writing and however its output arrives, the report holds the entries and nothing else
(`afterCalls_output`).
-/

namespace LintClient

namespace Protocol

/-- A line of a text is a line, and the others are those of the rest. -/
theorem contentLines_line {line ending rest : List Char} (nonempty : line ≠ [])
    (onLine : Json.OnLine line) (ends : ending = [] ∨ ending = ['\r']) :
    contentLines ((line ++ (ending ++ '\n' :: rest)).splitOn '\n') =
      line :: contentLines (rest.splitOn '\n') := by
  have inside : ∀ c ∈ line, Text.isLineEnding c = false := by
    intro c there
    have printable := onLine c there
    simp only [Text.isLineEnding, Bool.or_eq_false_iff, beq_eq_false_iff_ne]
    constructor <;> (rintro rfl; revert printable; decide)
  have outside : ∀ c ∈ ending, Text.isLineEnding c = true := by
    rcases ends with rfl | rfl
    · exact nofun
    · simp [Text.isLineEnding]
  have noNewline : '\n' ∉ line ++ ending := by
    rw [List.mem_append, not_or]
    refine ⟨fun there => absurd (inside _ there) (by decide), ?_⟩
    rcases ends with rfl | rfl <;> decide
  have stripped := Text.strip_append (List.forall_mem_nil _) inside outside
  rw [List.nil_append] at stripped
  have kept : contentLines [line ++ ending] = [line] := by
    simp [contentLines, stripped, nonempty]
  rw [← List.append_assoc, List.splitOn_append_cons_self_of_not_mem noNewline,
    ← List.singleton_append, contentLines_append, kept, List.singleton_append]

end Protocol

namespace Run

open Protocol (Recordable entryRecord readLines contentLines readLine Findings)

/-- How a line is written. -/
structure LineStyle where
  /-- Escape every character outside printable ASCII. -/
  asciiOnly : Bool
  /-- Put a carriage return before the newline. -/
  carriageReturn : Bool
deriving DecidableEq, Repr

/-- The end of a line. -/
def LineStyle.ending (style : LineStyle) : List Char :=
  (if style.carriageReturn then ['\r'] else []) ++ ['\n']

/-- The line of an entry, unless a coordinate is too long to be written. -/
def entryLine? (style : LineStyle) (entry : LintEntry) : Option (List Char) :=
  (Json.writtenLine? style.asciiOnly (entryRecord entry)).map (· ++ style.ending)

/-- The text of a linter that reports entries. -/
def outputText? : List (LineStyle × LintEntry) → Option (List Char)
  | [] => some []
  | (style, entry) :: entries => do
    let line ← entryLine? style entry
    let rest ← outputText? entries
    pure (line ++ rest)

/-- The output of a linter that reports entries. -/
def output? (entries : List (LineStyle × LintEntry)) : Option (List UInt8) :=
  (outputText? entries).map Text.Utf8.encode

/-- The lines of a linter's text say its entries, in their order. -/
theorem readLines_outputText {entries : List (LineStyle × LintEntry)} {text : List Char}
    (recordable : ∀ written ∈ entries, Recordable written.2)
    (isText : outputText? entries = some text) :
    readLines (contentLines (text.splitOn '\n')) =
      ⟨entries.map Prod.snd, ⟨entries.length, 0, 0, 0⟩, []⟩ := by
  induction entries generalizing text with
  | nil =>
      obtain rfl := Option.some.inj isText
      rfl
  | cons written entries inductionHypothesis =>
      obtain ⟨style, entry⟩ := written
      obtain ⟨first, others⟩ := List.forall_mem_cons.mp recordable
      simp only [outputText?, bind, Option.bind_eq_some_iff, pure, Option.some.injEq] at isText
      obtain ⟨_, isLine, rest, isRest, rfl⟩ := isText
      obtain ⟨line, isWritten, rfl⟩ := Option.map_eq_some_iff.mp isLine
      obtain ⟨said, nonempty, onLine⟩ := Protocol.readLine_of_entry first isWritten
      have ends : (if style.carriageReturn then ['\r'] else []) = [] ∨
          (if style.carriageReturn then ['\r'] else []) = ['\r'] := by
        cases style.carriageReturn <;> simp
      have same : line ++ style.ending ++ rest =
          line ++ ((if style.carriageReturn then ['\r'] else []) ++ '\n' :: rest) := by
        simp [LineStyle.ending]
      have single : readLines [line] = ⟨[entry], ⟨1, 0, 0, 0⟩, []⟩ := by
        simp [readLines, Findings.concat, said, Findings.append, Findings.empty, Protocol.Tally.add,
          Protocol.Tally.zero]
      rw [same, Protocol.contentLines_line nonempty onLine ends, ← List.singleton_append,
        Protocol.readLines_append, single, inductionHypothesis others isRest]
      simp [Findings.append, Protocol.Tally.add, Nat.add_comm]

namespace Listening

/-- A linter that writes the record of each entry on a line of its own is understood. Its entries
may have any texts; what it cannot do is to write coordinates of more than 4300 digits. However its
output is cut into chunks, what has come at its end is the entries, each kind in its order, with one
record for each of them and nothing to note. -/
theorem afterCalls_output (source : String) {entries : List (LineStyle × LintEntry)}
    (recordable : ∀ written ∈ entries, Recordable written.2) {chunks : List (List UInt8)}
    (isOutput : output? entries = some chunks.flatten) :
    afterCalls source .empty (chunks.map OutputCall.feed ++ [.close]) =
      ⟨⟨.start, ⟨entries.length, 0, 0, 0⟩⟩,
        ⟨Report.errorsOf (entries.map Prod.snd), Report.warningsOf (entries.map Prod.snd),
          Report.variablesOf (entries.map Prod.snd), false⟩, []⟩ := by
  obtain ⟨text, isText, encoded⟩ := Option.map_eq_some_iff.mp isOutput
  have bytes :
      written (chunks.map OutputCall.feed ++ [.close]) = Text.Utf8.encode text ++ [0x0A] := by
    rw [encoded]
    simp [written, OutputCall.bytes, List.flatMap_def, Function.comp_def]
  have heard : afterCalls source .empty (chunks.map OutputCall.feed ++ [.close]) =
      ofText source .empty (text ++ ['\n']) := by
    rw [afterCalls_eq rfl, bytes, ofBytes_newline rfl, Text.Utf8.decodeLossy_newline,
      Text.Utf8.decodeLossy_encode]
  have said : readLines (contentLines ((text ++ ['\n']).splitOn '\n')) =
      ⟨entries.map Prod.snd, ⟨entries.length, 0, 0, 0⟩, []⟩ := by
    rw [List.splitOn_append_cons_self, List.splitOn_nil, Protocol.contentLines_append,
      Protocol.contentLines_nil_line, List.append_nil, readLines_outputText recordable isText]
  rw [heard, ofText, said]
  simp [Report.empty]

/-- The range from the third character of the first line to the start of the second. -/
def smileRange : Range := ⟨⟨0, 2⟩, ⟨1, 0⟩⟩

/-- An error at the range, with a character outside the basic plane, a warning without a range, and
a variable with a comment, a definition and two uses. -/
def smileLines : List (LineStyle × LintEntry) :=
  [(⟨false, true⟩, .error ⟨"😀", some smileRange⟩), (⟨true, false⟩, .warning ⟨"é", none⟩),
    (⟨false, false⟩, .symbol ⟨"_x", "a \"count\"", [smileRange], [smileRange, smileRange]⟩)]

/-- The output with these entries, cut inside a character, inside the end of a line and inside a
number. -/
def smileChunks : List (List UInt8) :=
  [Text.Utf8.encode "\x7b\"type\": \"error\", \"error\": \"".toList ++ [0xF0, 0x9F],
    [0x98, 0x80] ++ Text.Utf8.encode "\", \"line\": [1, 2], \"column\": [3, 0]\x7d\r".toList, [],
    Text.Utf8.encode ("\n\x7b\"type\": \"warning\", \"error\": \"\\u00e9\"\x7d\n" ++
      "\x7b\"type\": \"variable\", \"variable\": \"_x\", \"comment\": \"a \\\"count\\\"\", " ++
      "\"definitions\": [\x7b\"line\": [1, 2], \"column\": [3, 0]\x7d], " ++
      "\"usage\": [\x7b\"line\": [").toList,
    Text.Utf8.encode
      ("1, 2], \"column\": [3, 0]\x7d, \x7b\"line\": [1, 2], \"column\": [3, 0]\x7d]\x7d\n").toList]

/-- What the chunks tell is found again, kind by kind. -/
theorem afterCalls_output_smile :
    (∀ written ∈ smileLines, Recordable written.2) ∧ output? smileLines = some smileChunks.flatten ∧
      afterCalls "lint" .empty (smileChunks.map OutputCall.feed ++ [.close]) =
        ⟨⟨.start, ⟨3, 0, 0, 0⟩⟩, ⟨[⟨"😀", some smileRange⟩], [⟨"é", none⟩],
          [⟨"_x", "a \"count\"", [smileRange], [smileRange, smileRange]⟩], false⟩, []⟩ := by
  have recordable : ∀ written ∈ smileLines, Recordable written.2 := by
    have wellFormed : smileRange.WellFormed := by decide
    simp only [smileLines, List.forall_mem_cons, List.not_mem_nil, false_implies, implies_true,
      and_true]
    refine ⟨fun range there => ?_, nofun, by decide, ⟨by decide, by decide, by decide⟩, ?_⟩
    · obtain rfl := Option.some.inj there
      exact wellFormed
    · simpa using wellFormed
  have isOutput : output? smileLines = some smileChunks.flatten := by
    decide +kernel
  exact ⟨recordable, isOutput, afterCalls_output "lint" recordable isOutput⟩

end Listening

end Run

end LintClient
