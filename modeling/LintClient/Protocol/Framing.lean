import LintClient.Text.Blank
import LintClient.Text.Utf8

/-!
# Lines of a byte stream

The output of a linter arrives in chunks that are cut anywhere, even inside a character. What has
been read of the unfinished line is all that is kept between chunks: its characters, and the bytes
of a character that has begun.
-/

namespace LintClient.Protocol

open Text

/-- The unfinished line of a stream. -/
structure Framing where
  pending : Utf8.Pending
  tail : List Char
deriving DecidableEq, Repr

namespace Framing

/-- Nothing has been read of the line. -/
def start : Framing := ⟨.none, []⟩

/-- The pieces of a text between newlines: the complete lines and the unfinished last one. -/
def cut (text : List Char) : List (List Char) × List Char :=
  let pieces := splitAt '\n' text
  (pieces.dropLast, pieces.getLastD [])

/-- Read a chunk: the state after it and the lines that it completes. -/
def feed (framing : Framing) (chunk : List UInt8) : Framing × List (List Char) :=
  let (pending, segments) := Utf8.run framing.pending chunk
  let (lines, tail) := cut (framing.tail ++ segments.map Utf8.Segment.lossy)
  (⟨pending, tail⟩, lines)

/-- End the stream: the state for another one and the unfinished line as it stands. -/
def close (framing : Framing) : Framing × List (List Char) :=
  (start, [framing.tail ++ (Utf8.finish framing.pending).map Utf8.Segment.lossy])

end Framing

/-- The lines that hold something, without the line endings around them. -/
def contentLines (lines : List (List Char)) : List (List Char) :=
  (lines.map (strip isLineEnding)).filter (!·.isEmpty)

end LintClient.Protocol
