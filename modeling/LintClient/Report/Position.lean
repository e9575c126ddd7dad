import LintClient.Json.Basic

/-!
# Positions and ranges

Places in a document as editors count them: lines and characters from zero, the end of a range
behind its last character. Well-formed ranges are the ones that a diagnostic may carry.
-/

namespace LintClient

/-- A place in a document, counted from zero. -/
structure Position where
  line : Int
  character : Int
deriving DecidableEq, Repr

namespace Position

/-- Whether a position is reached no later than another: by line, then by character. -/
def NotAfter (left right : Position) : Prop :=
  left.line < right.line ∨ (left.line = right.line ∧ left.character ≤ right.character)

instance (left right : Position) : Decidable (left.NotAfter right) :=
  inferInstanceAs (Decidable (_ ∨ _))

/-- Whether both coordinates are possible. -/
def InDocument (position : Position) : Prop :=
  0 ≤ position.line ∧ 0 ≤ position.character

instance (position : Position) : Decidable position.InDocument :=
  inferInstanceAs (Decidable (_ ∧ _))

/-- A position as an object. -/
def toJson (position : Position) : Json :=
  .object [("line", .int position.line), ("character", .int position.character)]

end Position

/-- The text from a position up to, and not including, the character at another. -/
structure Range where
  start : Position
  stop : Position
deriving DecidableEq, Repr

namespace Range

/-- Whether a range lies in a document and does not end before it starts. -/
def WellFormed (range : Range) : Prop :=
  range.start.InDocument ∧ range.stop.InDocument ∧ range.start.NotAfter range.stop

instance (range : Range) : Decidable range.WellFormed :=
  inferInstanceAs (Decidable (_ ∧ _))

/-- A range as an object. -/
def toJson (range : Range) : Json :=
  .object [("start", range.start.toJson), ("end", range.stop.toJson)]

end Range

end LintClient
