import LintClient.Proofs.Text.Pieces
import LintClient.Proofs.Text.Utf8.Run
import LintClient.Protocol.Framing

/-!
# Laws of framing

The two buffers of a framing, the unfinished character and the unfinished line, stand together for
what has been read since the last newline. Feeding composes (`Framing.feed_append`), and the end of
a stream is a newline (`Framing.close_eq_feed_newline`), so lines depend on the bytes alone and not
on where they were cut.
-/

namespace LintClient.Protocol

open Text

namespace Framing

/-- Cutting may stop anywhere and go on with the unfinished line. -/
theorem cut_append (before after : List Char) :
    cut (before ++ after) =
      ((cut before).1 ++ (cut ((cut before).2 ++ after)).1, (cut ((cut before).2 ++ after)).2) := by
  have nonempty := splitAt_ne_nil '\n' ((cut before).2 ++ after)
  have pieces : splitAt '\n' (before ++ after) =
      (cut before).1 ++ splitAt '\n' ((cut before).2 ++ after) :=
    splitAt_append '\n' before after
  apply Prod.ext
  · change (splitAt '\n' (before ++ after)).dropLast = _
    rw [pieces, List.dropLast_append_of_ne_nil nonempty]
    rfl
  · change (splitAt '\n' (before ++ after)).getLastD [] = _
    rw [pieces, List.getLastD_eq_getLast?, List.getLast?_append_of_ne_nil _ nonempty,
      ← List.getLastD_eq_getLast?]
    rfl

/-- A text without a newline completes no line. -/
theorem cut_of_notMem {text : List Char} (absent : '\n' ∉ text) : cut text = ([], text) := by
  simp [cut, splitAt_of_notMem absent]

/-- A newline completes the line before it. -/
theorem cut_newline (text : List Char) : cut (text ++ ['\n']) = (splitAt '\n' text, []) := by
  have pieces : splitAt '\n' (text ++ ['\n']) = splitAt '\n' text ++ [[]] := by
    simp only [splitAt_eq_splitOn]
    exact List.splitOn_append_cons_self text []
  simp [cut, pieces]

/-- A framing as it is between chunks: the unfinished line holds no newline. -/
def OneLine (framing : Framing) : Prop :=
  '\n' ∉ framing.tail

/-- At the start there is no newline in what has not been cut off yet. -/
theorem oneLine_start : start.OneLine :=
  List.not_mem_nil

/-- Chunks leave an unfinished line behind. -/
theorem oneLine_feed (framing : Framing) (chunk : List UInt8) : (framing.feed chunk).1.OneLine :=
  notMem_lastPiece '\n' _

/-- An empty chunk changes nothing. -/
theorem feed_nil {framing : Framing} (oneLine : framing.OneLine) :
    framing.feed [] = (framing, []) := by
  simp [feed, cut_of_notMem oneLine]

/-- Two chunks are one chunk. -/
theorem feed_append (framing : Framing) (first second : List UInt8) :
    framing.feed (first ++ second) =
      (((framing.feed first).1.feed second).1,
        (framing.feed first).2 ++ ((framing.feed first).1.feed second).2) := by
  simp only [feed, Utf8.run_append, List.map_append]
  rw [← List.append_assoc, cut_append]

/-- A newline completes the unfinished line and leaves nothing behind. -/
theorem feed_newline {framing : Framing} (oneLine : framing.OneLine) :
    framing.feed [0x0A] =
      (start, [framing.tail ++ (Utf8.finish framing.pending).map Utf8.Segment.lossy]) := by
  obtain ⟨ended, read⟩ := Utf8.run_newline framing.pending
  have absent : '\n' ∉ framing.tail ++ (Utf8.finish framing.pending).map Utf8.Segment.lossy := by
    rw [List.mem_append, not_or]
    refine ⟨oneLine, ?_⟩
    cases framing.pending <;> simp [Utf8.finish, Utf8.Segment.lossy, Utf8.replacement]
  simp only [feed, ended, read]
  rw [← List.append_assoc, cut_newline, splitAt_of_notMem absent]
  rfl

/-- After a newline nothing is left, whatever came before. -/
theorem feed_append_newline (framing : Framing) (bytes : List UInt8) :
    (framing.feed (bytes ++ [0x0A])).1 = start := by
  rw [feed_append, feed_newline (oneLine_feed framing bytes)]

/-- The end of a stream is a newline. -/
theorem close_eq_feed_newline {framing : Framing} (oneLine : framing.OneLine) :
    framing.close = framing.feed [0x0A] :=
  (feed_newline oneLine).symm

/-- The lines of a whole stream with a newline behind it are the pieces of its text. -/
theorem feed_start_newline (bytes : List UInt8) :
    start.feed (bytes ++ [0x0A]) = (start, splitAt '\n' (Utf8.decodeLossy bytes)) := by
  obtain ⟨ended, read⟩ := Utf8.run_newline (Utf8.run .none bytes).1
  have text : (Utf8.run .none (bytes ++ [0x0A])).2.map Utf8.Segment.lossy =
      Utf8.decodeLossy bytes ++ ['\n'] := by
    simp only [Utf8.run_append, List.map_append, read, Utf8.decodeLossy, Utf8.segments,
      List.append_assoc]
  have settled : (Utf8.run .none (bytes ++ [0x0A])).1 = .none := by
    simp only [Utf8.run_append, ended]
  simp only [feed, start, text, settled, List.nil_append, cut_newline]

/-- The lines that a stream has completed are the pieces of its text but the last, which is
unfinished. -/
theorem feed_start_lines (bytes : List UInt8) :
    (start.feed bytes).2 = (splitAt '\n' (Utf8.decodeLossy bytes)).dropLast := by
  let read := (Utf8.run .none bytes).2.map Utf8.Segment.lossy
  let given := (Utf8.finish (Utf8.run .none bytes).1).map Utf8.Segment.lossy
  have text : Utf8.decodeLossy bytes = read ++ given := List.map_append
  -- What stands for the unfinished character belongs to the unfinished line.
  have unfinished : '\n' ∉ lastPiece '\n' read ++ given := by
    rw [List.mem_append, not_or]
    refine ⟨notMem_lastPiece '\n' read, ?_⟩
    cases pending : (Utf8.run .none bytes).1 <;>
      simp [given, pending, Utf8.finish, Utf8.Segment.lossy, Utf8.replacement]
  rw [text, splitAt_append, splitAt_of_notMem unfinished, List.dropLast_concat]
  rfl

end Framing

/-- The lines of two parts are those of the first and then those of the second. -/
theorem contentLines_append (first second : List (List Char)) :
    contentLines (first ++ second) = contentLines first ++ contentLines second := by
  simp [contentLines]

/-- A line counts if something is left of it. -/
theorem contentLines_cons (line : List Char) (lines : List (List Char)) :
    contentLines (line :: lines) =
      if Text.strip Text.isLineEnding line = [] then contentLines lines
      else Text.strip Text.isLineEnding line :: contentLines lines := by
  by_cases isEmpty : Text.strip Text.isLineEnding line = [] <;> simp [contentLines, isEmpty]

/-- An empty line says nothing. -/
theorem contentLines_nil_line : contentLines [[]] = [] := rfl

end LintClient.Protocol
