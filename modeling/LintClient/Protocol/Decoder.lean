import LintClient.Protocol.Reading

/-!
# Decoding a stream

A decoder reads the output of one linter run chunk by chunk and puts what it says into a report.
A report that is already frozen refuses the first entry; what the chunk says behind that entry is
lost, while the unfinished line stays with the decoder.
-/

namespace LintClient.Protocol

/-- A decoder in the middle of a stream. -/
structure Decoder where
  framing : Framing
  tally : Tally
deriving DecidableEq, Repr

/-- What became of the lines that a step completed. -/
structure Delivery where
  entries : List LintEntry
  notes : List Note
  /-- Whether an entry was refused. -/
  refused : Bool
deriving Repr

namespace Decoder

/-- A decoder at the start of a stream. -/
def start : Decoder := ⟨.start, .zero⟩

/-- What counts of the lines up to and including the first one with an entry, when entries are
refused: of the refused line only its bad places. -/
def upToRefusal (findings : List Findings) : Findings × Bool :=
  let (before, rest) := findings.span (·.entries.isEmpty)
  let counted := Findings.concat before
  match rest with
  | [] => (counted, false)
  | refused :: _ =>
    (counted.append ⟨[], ⟨0, 0, 0, refused.tally.badPlaces⟩, refused.notes⟩, true)

/-- Read the lines that a step completed. -/
def deliver (decoder : Decoder) (frozen : Bool) (framing : Framing) (lines : List (List Char)) :
    Decoder × Delivery :=
  let findings := (contentLines lines).map readLine
  let (counted, refused) :=
    if frozen then upToRefusal findings else (.concat findings, false)
  (⟨framing, decoder.tally.add counted.tally⟩, ⟨counted.entries, counted.notes, refused⟩)

/-- Read a chunk of output for a report that may be frozen. -/
def feed (decoder : Decoder) (frozen : Bool) (chunk : List UInt8) : Decoder × Delivery :=
  let (framing, lines) := decoder.framing.feed chunk
  decoder.deliver frozen framing lines

/-- Read the unfinished line at the end of the output. -/
def close (decoder : Decoder) (frozen : Bool) : Decoder × Delivery :=
  let (framing, lines) := decoder.framing.close
  decoder.deliver frozen framing lines

end Decoder

end LintClient.Protocol
