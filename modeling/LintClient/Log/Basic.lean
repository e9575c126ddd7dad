/-!
# Log records

What the library tells about its work: messages with a level. Levels are ordered by severity, which
their ranks tell as numbers.
-/

namespace LintClient

/-- The severity of a log record. -/
inductive Level where
  | trace
  | debug
  | info
  | success
  | warning
  | error
  | critical
deriving DecidableEq, Repr

namespace Level

/-- The rank of a level: a more severe level has a greater one. -/
def rank : Level -> Nat
  | .trace => 5
  | .debug => 10
  | .info => 20
  | .success => 25
  | .warning => 30
  | .error => 40
  | .critical => 50

/-- The written name of a level. -/
def name : Level -> String
  | .trace => "TRACE"
  | .debug => "DEBUG"
  | .info => "INFO"
  | .success => "SUCCESS"
  | .warning => "WARNING"
  | .error => "ERROR"
  | .critical => "CRITICAL"

/-- All levels, from the least severe one on. -/
def all : List Level :=
  [.trace, .debug, .info, .success, .warning, .error, .critical]

/-- The level with the given name. -/
def ofName? (name : String) : Option Level :=
  all.find? fun level => level.name == name

end Level

/-- A message with its level. -/
structure LogRecord where
  level : Level
  message : String
deriving DecidableEq, Repr

/-- A record about the party that `source` names. -/
def LogRecord.about (source : String) (level : Level) (message : String) : LogRecord :=
  ⟨level, "[" ++ source ++ "] " ++ message⟩

end LintClient
