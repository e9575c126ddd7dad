import LintClient.Protocol.Integer
import LintClient.Protocol.Span

/-!
# Fields

The checks that single fields of a record pass. A check yields a value or the faults it found, and
the faults of several fields add up in the order of the fields.
-/

namespace LintClient.Protocol

/-- What is wrong with a field or with an element of a pair. -/
inductive FieldFault where
  | missing
  | notText
  | notArray
  | notPair
  | tooManyElements (count : Nat)
  | integer (fault : IntegerFault)
deriving DecidableEq, Repr

/-- The wording of a fault. -/
def FieldFault.message : FieldFault -> String
  | .missing => "Field required"
  | .notText => "Input should be a valid string"
  | .notArray => "Input should be a valid array"
  | .notPair => "Input should be a valid tuple"
  | .tooManyElements count =>
    "Tuple should have at most 2 items after validation, not " ++ toString count
  | .integer fault => fault.message

/-- A checked value, or all faults that the check found. -/
abbrev Checked (α : Type) := Except (List FieldFault) α

namespace Checked

/-- Apply a checked function to a checked value; faults of both are reported, in that order. -/
def apply {α β : Type} (function : Checked (α -> β)) (argument : Checked α) : Checked β :=
  match function, argument with
  | .ok function, .ok argument => .ok (function argument)
  | .ok _, .error faults => .error faults
  | .error faults, .ok _ => .error faults
  | .error faults, .error others => .error (faults ++ others)

end Checked

/-- A text that must be given. -/
def requiredText : Option Json -> Checked String
  | some (.str text) => .ok text
  | some _ => .error [.notText]
  | none => .error [.missing]

/-- A text that may be absent or null. -/
def optionalText : Option Json -> Checked (Option String)
  | none | some .null => .ok none
  | some (.str text) => .ok (some text)
  | some _ => .error [.notText]

/-- A list of anything that may be absent. -/
def optionalList : Option Json -> Checked (List Json)
  | none => .ok []
  | some (.list items) => .ok items
  | some _ => .error [.notArray]

/-- An element of a pair. -/
def element : Option Json -> Checked Int
  | none => .error [.missing]
  | some value => match integerOf value with
    | .ok number => .ok number
    | .error fault => .error [.integer fault]

/-- A pair of integers; `otherKind` is the fault of a value that is no list. -/
def pair (otherKind : FieldFault) : Json -> Checked (Int × Int)
  | .list items =>
    if items.length ≤ 2 then
      (Checked.apply ((element items[0]?).map Prod.mk) (element items[1]?))
    else .error [.tooManyElements items.length]
  | _ => .error [otherKind]

/-- A pair of integers that must be given. -/
def requiredPair (otherKind : FieldFault) : Option Json -> Checked (Int × Int)
  | none => .error [.missing]
  | some value => pair otherKind value

/-- A pair of integers that may be absent or null. -/
def optionalPair (otherKind : FieldFault) : Option Json -> Checked (Option (Int × Int))
  | none | some .null => .ok none
  | some value => (pair otherKind value).map some

/-- Several wordings on one line. -/
def joinedMessages (messages : List String) : String :=
  "; ".intercalate messages

/-- The wording of a check that follows the checks of the fields. -/
def valueMessage (message : String) : String :=
  "Value error, " ++ message

end LintClient.Protocol
