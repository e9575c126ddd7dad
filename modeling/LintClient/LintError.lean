import LintClient.Json.Display

/-!
# Failed requests

Why a lint request has no report. Every failure carries a message and, where one was involved, the
command and its exit status; some kinds carry more. The text of a failure holds all that the other
fields do not repeat.
-/

namespace LintClient

/-- What kind of failure a request ended in. -/
inductive LintError.Kind where
  | general
  /-- A newer request took the place of the pending one. -/
  | superseded
  /-- The linter could not be started. -/
  | launch
  /-- The source text could not be delivered. -/
  | write
  /-- The output of the linter could not be read. -/
  | fault
  /-- The run took longer than its limit. -/
  | timeout (limit : Json)
  /-- The configuration is invalid, for the given reasons. -/
  | configuration (reasons : List String)
deriving Repr

/-- A failed request, with the command and its exit status where there are any. -/
structure LintError where
  kind : LintError.Kind
  message : String
  command : Option (List String)
  status : Option Int
deriving Repr

namespace LintError

/-- A failure without command and exit status. -/
def plain (kind : Kind) (message : String) : LintError :=
  ⟨kind, message, none, none⟩

/-- A failure of a run of the given command. -/
def ofCommand (kind : Kind) (command : List String) (message : String) : LintError :=
  ⟨kind, message, some command, none⟩

/-- The failure of a request that a newer one replaced. -/
def superseded : LintError :=
  plain .superseded "Superseded by a newer request"

/-- A message with the reasons for it. -/
def explain (message reasons : String) : String :=
  message ++ " | " ++ reasons

/-- A message with the command and the exit status, if there are any. -/
def describe (message : String) (command status : Option String) : String :=
  " | ".intercalate ([message]
    ++ (command.map fun words => "command=" ++ words).toList
    ++ (status.map fun status => "returncode=" ++ status).toList)

/-- The text of a failure. An invalid configuration is explained by its reasons, every other
failure by the command and the exit status. -/
def text (failure : LintError) : String :=
  match failure.kind with
  | .configuration reasons =>
    if reasons.isEmpty then failure.message
    else explain failure.message ("; ".intercalate reasons)
  | _ =>
    let words := failure.command.getD []
    describe failure.message (if words.isEmpty then none else some (" ".intercalate words))
      (failure.status.map toString)

end LintError

end LintClient
