import LintClient.Json.Display
import LintClient.Report.Position

/-!
# Spans

The places that records give: lines and columns counted from one, with the last character
included. A span that passes the check denotes exactly one well-formed range, and every
well-formed range is denoted by exactly one span.
-/

namespace LintClient.Protocol

/-- A pair of lines and a pair of columns, first and last. -/
structure Span where
  lines : Int × Int
  columns : Int × Int
deriving DecidableEq, Repr

/-- Why a span denotes no range. -/
inductive SpanFault where
  | outOfRange
  | startAfterEnd
deriving DecidableEq, Repr

namespace Span

/-- The range that a span denotes. The end column is kept, since an included last character and an
excluded one after it have the same number in the two ways of counting. -/
def toRange (span : Span) : Range :=
  ⟨⟨span.lines.1 - 1, span.columns.1 - 1⟩, ⟨span.lines.2 - 1, span.columns.2⟩⟩

/-- The span that denotes a range. -/
def ofRange (range : Range) : Span :=
  ⟨(range.start.line + 1, range.stop.line + 1), (range.start.character + 1, range.stop.character)⟩

/-- Check a span: lines and columns count from one, except that an empty span at the start of a
line ends in column zero, and a span does not end before it starts. -/
def fault? (span : Span) : Option SpanFault :=
  if span.lines.1 < 1 || span.lines.2 < 1 || span.columns.1 < 1 || span.columns.2 < 0 then
    some .outOfRange
  else if span.lines.2 < span.lines.1
      || (span.lines.1 = span.lines.2 && span.columns.2 < span.columns.1 - 1) then
    some .startAfterEnd
  else none

end Span

/-- The wording of a fault of a span. -/
def SpanFault.message (fault : SpanFault) (span : Span) : String :=
  let what := match fault with
    | .outOfRange => "position out of range"
    | .startAfterEnd => "start after end"
  what ++ ": line=" ++ Json.pairLiteral span.lines ++ " column=" ++ Json.pairLiteral span.columns

end LintClient.Protocol
