import LintClient.Json.Line
import LintClient.Protocol.Field
import LintClient.Text.Source

/-!
# Records

One line of linter output is one record: an object whose known fields have the right kinds, whose
span denotes a range, and which names its variable if it describes one. Reading a line ends in
exactly one record or in one reason why there is none; syntax comes before fields, and fields come
before what they mean together.
-/

namespace LintClient.Protocol

/-- A record with all its fields. -/
structure Record where
  kind : String
  error : Option String
  message : Option String
  name : Option String
  comment : Option String
  usage : List Json
  definitions : List Json
  lines : Option (Int × Int)
  columns : Option (Int × Int)
deriving Repr

namespace Record

/-- The span of a record that gives both lines and columns. -/
def span? (record : Record) : Option Span :=
  match record.lines, record.columns with
  | some lines, some columns => some ⟨lines, columns⟩
  | _, _ => none

/-- The text of a diagnostic: the error, or else the message, unless they are empty. -/
def text (record : Record) : String :=
  match record.error, record.message with
  | some error, message => if error.isEmpty then message.getD "" else error
  | none, message => message.getD ""

end Record

/-- Why a line is no record. -/
inductive LineFault where
  | notJson (failure : Json.Line.Failure)
  | notObject
  | fields (faults : List FieldFault)
  | span (fault : SpanFault) (span : Span)
  | unnamedVariable
deriving DecidableEq, Repr

/-- The wording of a fault of a line. -/
def LineFault.message (line : List Char) : LineFault -> String
  | .notJson failure => "Invalid JSON: " ++ failure.message line
  | .notObject => "Input should be an object"
  | .fields faults => joinedMessages (faults.map FieldFault.message)
  | .span fault given => valueMessage (fault.message given)
  | .unnamedVariable => valueMessage "variable record without a name"

/-- Check the fields of a record. -/
def recordOfMembers (members : List (String × Json)) : Checked Record :=
  let field (key : String) := Json.member? key members
  (Checked.apply ((requiredText (field "type")).map Record.mk) (optionalText (field "error"))
    |>.apply (optionalText (field "message"))
    |>.apply (optionalText (field "variable"))
    |>.apply (optionalText (field "comment"))
    |>.apply (optionalList (field "usage"))
    |>.apply (optionalList (field "definitions"))
    |>.apply (optionalPair .notArray (field "line"))
    |>.apply (optionalPair .notArray (field "column")))

/-- What is wrong with the fields of a record taken together. -/
def Record.fault? (record : Record) : Option LineFault :=
  let spanFault := do
    let span ← record.span?
    let fault ← span.fault?
    pure (LineFault.span fault span)
  spanFault <|>
    if record.kind = "variable" && (record.name.getD "").isEmpty then some .unnamedVariable
    else none

/-- The record that a value is. -/
def recordOf : Json -> Except LineFault Record
  | .object members =>
    match recordOfMembers members with
    | .error faults => .error (.fields faults)
    | .ok record => match record.fault? with
      | some fault => .error fault
      | none => .ok record
  | _ => .error .notObject

/-- Read a line as a record, within the limits of a reader. -/
def readRecordWithin (limits : Json.Line.Limits) (line : List Char) : Except LineFault Record :=
  match Json.Line.document limits line with
  | .error failure => .error (.notJson failure)
  | .ok value => recordOf value

/-- Read a line as a record. -/
def readRecord (line : List Char) : Except LineFault Record :=
  readRecordWithin .ofReader line

/-- A line that is no record, and why. -/
structure Refusal where
  line : Text.Source
  reason : String
deriving DecidableEq, Repr

/-- The reason why a text that is not made of characters is no record. -/
def notCharacters : String :=
  "Input should be a valid string, unable to parse raw data as a unicode string"

/-- The record that a text is, within the limits of a reader, or the text itself with the wording of
its fault. A text that is not made of characters is not looked at. -/
def decodeText (limits : Json.Line.Limits) (text : Text.Source) : Except Refusal Record :=
  match text.characters? with
  | none => .error ⟨text, notCharacters⟩
  | some line => (readRecordWithin limits line).mapError fun fault => ⟨text, fault.message line⟩

/-- The record that a line is, or the line itself with the wording of its fault. The lines of
linter output are made of characters. -/
def decodeLine (line : List Char) : Except Refusal Record :=
  decodeText .ofReader (.ofText line)

end LintClient.Protocol
