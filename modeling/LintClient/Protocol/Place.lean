import LintClient.Protocol.Field

/-!
# Places of variables

A variable record lists the places where the variable is defined and used. Each place is an object
with its own lines and columns and is checked on its own.
-/

namespace LintClient.Protocol

/-- Why an item of such a list is no place. -/
inductive PlaceFault where
  | notObject
  | fields (faults : List FieldFault)
  | span (fault : SpanFault) (span : Span)
deriving DecidableEq, Repr

/-- The wording of a fault. -/
def PlaceFault.message : PlaceFault -> String
  | .notObject => "Input should be a valid dictionary or instance of RawPosition"
  | .fields faults => joinedMessages (faults.map FieldFault.message)
  | .span fault given => valueMessage (fault.message given)

/-- Check the item of a list of places. -/
def placeOf : Json -> Except PlaceFault Span
  | .object members =>
    let lines := requiredPair .notPair (Json.member? "line" members)
    let columns := requiredPair .notPair (Json.member? "column" members)
    match Checked.apply (lines.map Span.mk) columns with
    | .error faults => .error (.fields faults)
    | .ok span => match span.fault? with
      | some fault => .error (.span fault span)
      | none => .ok span
  | _ => .error .notObject

end LintClient.Protocol
