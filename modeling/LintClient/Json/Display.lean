import LintClient.Json.Basic
import LintClient.Number.Shortest

/-!
# Values in messages

How a value is shown inside a log message or an error: text in quotes, the null value and the truth
values by capitalised names, lists and objects on one line. Halves of surrogate pairs are shown by
their escapes.
-/

namespace LintClient.Json

mutual

/-- A value as it is shown inside another value, text in quotes. -/
def literal : Json -> String
  | .null => "None"
  | .bool value => if value then "True" else "False"
  | .int value => toString value
  | .float value => value.text
  | .str value => Text.quoted value
  | .stray text => text.source.quoted
  | .list items => "[" ++ ", ".intercalate (literals items) ++ "]"
  | .object members => "\x7b" ++ ", ".intercalate (memberLiterals members) ++ "\x7d"
  | .mixed keys values =>
    let members :=
      List.zipWith (fun key value => key.quoted ++ ": " ++ value) keys (literals values)
    "\x7b" ++ ", ".intercalate members ++ "\x7d"

/-- The shown forms of a list of values. -/
def literals : List Json -> List String
  | [] => []
  | item :: items => literal item :: literals items

/-- The shown forms of the members of an object. -/
def memberLiterals : List (String × Json) -> List String
  | [] => []
  | (key, value) :: members =>
    (Text.quoted key ++ ": " ++ literal value) :: memberLiterals members

end

/-- A value as it is shown on its own: text as it is, any other value as inside another. -/
def plain : Json -> String
  | .str value => value
  | .stray text => text.source.shown
  | value => value.literal

/-- A pair of integers as it is shown in messages. -/
def pairLiteral (pair : Int × Int) : String :=
  "[" ++ toString pair.1 ++ ", " ++ toString pair.2 ++ "]"

end LintClient.Json
