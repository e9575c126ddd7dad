import LintClient.Launch.Child
import LintClient.Protocol.Decoder

/-!
# Listening to a child

What arrives from a child is heard in order: its output goes through a decoder into the report, and
what it writes about itself into the log.
-/

namespace LintClient.Run

open Launch (Arrival)
open Protocol (Decoder Delivery)

/-- What has been heard of a child so far. -/
structure Listening where
  decoder : Decoder
  report : LintReport
  records : List LogRecord
deriving Repr

namespace Listening

/-- Nothing has been heard. -/
def start : Listening := ⟨.start, .empty, []⟩

/-- Take up what a decoder delivers. -/
def take (listening : Listening) (source : String) (decoder : Decoder) (delivery : Delivery) :
    Listening :=
  ⟨decoder, listening.report.appendAll delivery.entries,
    listening.records ++ delivery.notes.map fun note => note.logRecord source⟩

/-- What a child writes about itself, as a record; blanks at the end do not count. -/
def messageRecords (source : String) (bytes : List UInt8) : List LogRecord :=
  let text := Text.stripEnd Text.isBlank (Text.Utf8.decodeLossy bytes)
  if text.isEmpty then [] else [.about source .debug ("stderr: " ++ String.ofList text)]

/-- Hear what arrives from the child that `source` names. -/
def hear (source : String) (listening : Listening) : Arrival -> Listening
  | .output bytes =>
    let (decoder, delivery) := listening.decoder.feed false bytes
    listening.take source decoder delivery
  | .message bytes =>
    { listening with records := listening.records ++ messageRecords source bytes }

/-- Hear the end of the output. -/
def close (source : String) (listening : Listening) : Listening :=
  let (decoder, delivery) := listening.decoder.close false
  listening.take source decoder delivery

end Listening

end LintClient.Run
