import LintClient.Json.Access
import LintClient.LintError

/-!
# Failures from arguments

A failure may be made by hand from positional and named values of any kind. The values are taken by
the parameters of the kind of failure; one too many, one unknown, one twice or one missing is a
misuse, and so is a value that the text of the failure cannot be made of. The failure keeps the
values as they are. Halves of surrogate pairs are shown by their escapes in its text.
-/

namespace LintClient.LintError

open Json (Misuse)

/-- The parameters of a kind of failure in order; positions beyond `positions` are given by name
only. -/
structure Parameters where
  names : List String
  positions : Nat
deriving DecidableEq, Repr

/-- The parameters of each kind of failure. -/
def Kind.parameters : Kind -> Parameters
  | .superseded => ⟨["message", "command", "returncode"], 1⟩
  | .timeout _ => ⟨["message", "timeout", "command", "returncode"], 2⟩
  | .configuration _ => ⟨["message", "errors"], 2⟩
  | _ => ⟨["message", "command", "returncode"], 3⟩

/-- The values by the names of the parameters that take them. -/
def assign (parameters : Parameters) (positional : List Json) (named : List (String × Json)) :
    Except Misuse (List (String × Json)) :=
  let taken := parameters.names.take positional.length
  if parameters.positions < positional.length then .error .unsupported
  else if named.any fun (name, _) => taken.contains name || !parameters.names.contains name then
    .error .unsupported
  else .ok (taken.zip positional ++ named)

/-- A failure made by hand. Its fields hold the values that it was given, of any kind. -/
structure HandMade where
  message : Json
  command : Json
  status : Json
  /-- What the kind of failure carries besides, by name. -/
  details : List (String × Json)
  text : String
deriving Repr

/-- The characters that a text shows. -/
def shownText : Json -> Except Misuse String
  | .str text => .ok text
  | .stray text => .ok text.source.shown
  | _ => .error .unsupported

/-- The texts in a value that can be gone through, in one. -/
def joined (separator : String) (value : Json) : Except Misuse String := do
  let texts ← (← value.elements).mapM shownText
  .ok (separator.intercalate texts)

/-- The text of a failed run: its message, which must be a text, the command if there is one, and
the exit status unless it is null. -/
def runText (message command status : Json) : Except Misuse String := do
  let words ← if command.isPresent then some <$> joined " " command else .ok none
  let message ← shownText message
  .ok (describe message words (if status.isNull then none else some status.plain))

/-- A message with the reasons for it behind. A text gets them as a text, a list character by
character. -/
def withReasons (message reasons : Json) : Except Misuse Json :=
  if reasons.isPresent then do
    let reasons ← joined "; " reasons
    match message with
    | .list items =>
      .ok (.list (items ++ (← (Json.str (explain "" reasons)).elements)))
    | message => .ok (.str (explain (← shownText message) reasons))
  else .ok message

/-- Make a failure of the kind of `kind` from arguments. A message that is a list is the very list
that the reasons were put into. -/
def ofArguments (kind : Kind) (positional : List Json) (named : List (String × Json)) :
    Except Misuse HandMade := do
  let values ← assign kind.parameters positional named
  let given (name : String) : Json := (values.lookup name).getD .null
  let message ← match values.lookup "message", kind with
    | some message, _ => .ok message
    | none, .superseded => .ok (.str superseded.message)
    | none, _ => .error .unsupported
  match kind with
  | .configuration _ =>
    let reasons := if (given "errors").isPresent then given "errors" else .list []
    let explained ← withReasons message reasons
    let kept := match message with
      | .list _ => explained
      | _ => message
    .ok ⟨kept, .null, .null, [("errors", reasons)], explained.plain⟩
  | kind =>
    let command := given "command"
    let status := given "returncode"
    let details := match kind with
      | .timeout _ => [("timeout", given "timeout")]
      | _ => []
    .ok ⟨message, command, status, details, ← runText message command status⟩

end LintClient.LintError
