import LintClient.Log.Basic
import LintClient.Log.Header
import LintClient.Log.Stamp

/-!
# Records as lines

How a record stands in a log file and on the error stream: a time, the level in a column of its own,
the program, and the message. On the error stream the parts are coloured.
-/

namespace LintClient.Log

/-- The name of the program in its records. -/
def programName : String := "sqflint"

/-- The name of a level in its column. -/
def levelColumn (level : Level) : String :=
  String.ofList (padEnd 8 level.name.toList)

/-- A record as a line of a log file. -/
def fileLine (now : Stamp) (record : LogRecord) : String :=
  now.written "YYYY-MM-DD HH:mm:ss.SSS" ++ " | " ++ levelColumn record.level ++ " | "
    ++ programName ++ " - " ++ record.message ++ "\n"

/-- A text in the style that display codes ask for. -/
def styled (codes : List Nat) (text : String) : String :=
  String.join (codes.map fun code => "\x1b[" ++ toString code ++ "m") ++ text ++ "\x1b[0m"

/-- The display codes of a level: a colour, and bold. -/
def levelCodes : Level -> List Nat
  | .trace => [36, 1]
  | .debug => [34, 1]
  | .info => [1]
  | .success => [32, 1]
  | .warning => [33, 1]
  | .error => [31, 1]
  | .critical => [41, 1]

/-- A record as a line of the error stream. -/
def consoleLine (now : Stamp) (record : LogRecord) : String :=
  let codes := levelCodes record.level
  styled [32] (now.written "HH:mm:ss") ++ " | " ++ styled codes (levelColumn record.level) ++ " | "
    ++ styled [36] programName ++ " - " ++ styled codes record.message ++ "\n"

end LintClient.Log
