import LintClient.Number.Reading
import LintClient.Text.Quoted

/-!
# Command line arguments

Arguments are files and options. An option may be shortened as long as it stays clear, and its
value may follow it or be joined to it by an equals sign. Two dashes end the options; joined to an
option they are no value, and what the option was given is lost. The files stand together: what
remains outside their first run is not recognised.
-/

namespace LintClient.CommandLine

open Text

/-- An option. -/
inductive OptionName where
  | help
  | config
  | java
  | jar
  | command
  | timeout
  | json
  | listVariables
  | logLevel
  | logDir
deriving DecidableEq, Repr

namespace OptionName

/-- The spellings of all options, in the order of the usage text. -/
def spellings : List (String × OptionName) :=
  [("-h", .help), ("--help", .help), ("--config", .config), ("--java", .java), ("--jar", .jar),
    ("--command", .command), ("--timeout", .timeout), ("--json", .json),
    ("--variables", .listVariables), ("--log-level", .logLevel), ("--log-dir", .logDir)]

/-- Whether an option has a value. -/
def hasValue : OptionName -> Bool
  | .help | .json | .listVariables => false
  | _ => true

/-- An option as it is named in a complaint: by all its spellings. -/
def shown (option : OptionName) : String :=
  "/".intercalate ((spellings.filter fun entry => entry.2 = option).map (·.1))

end OptionName

/-- What the arguments ask for. -/
structure Arguments where
  files : List String
  config : Option String
  java : Option String
  jar : Option String
  command : Option String
  timeout : Option Binary64
  json : Bool
  listsVariables : Bool
  logLevel : Option String
  logDir : Option String
  /-- The options that were given last with a value that got lost. -/
  lost : List OptionName
deriving DecidableEq, Repr

/-- The arguments of a command line that asks for nothing. -/
def Arguments.none : Arguments :=
  ⟨[], Option.none, Option.none, Option.none, Option.none, Option.none, false, false, Option.none,
    Option.none, []⟩

/-- Why arguments are not accepted. -/
inductive Complaint where
  | ambiguous (given : String) (matching : List String)
  | noValue (option : OptionName)
  | unwantedValue (option : OptionName) (value : String)
  | notANumber (option : OptionName) (value : String)
  | noFiles
  | unrecognized (given : List String)
deriving DecidableEq, Repr

/-- The wording of a complaint. -/
def Complaint.message : Complaint -> String
  | .ambiguous given matching =>
    "ambiguous option: " ++ given ++ " could match " ++ ", ".intercalate matching
  | .noValue option => "argument " ++ option.shown ++ ": expected one argument"
  | .unwantedValue option value =>
    "argument " ++ option.shown ++ ": ignored explicit argument " ++ quoted value
  | .notANumber option value =>
    "argument " ++ option.shown ++ ": invalid float value: " ++ quoted value
  | .noFiles => "the following arguments are required: files"
  | .unrecognized given => "unrecognized arguments: " ++ " ".intercalate given

/-- Why there are no arguments to go on with. -/
inductive Stop where
  | help
  | complaint (complaint : Complaint)
deriving DecidableEq, Repr

/-- What an argument looks like. -/
inductive Item where
  | plain (given : String)
  /-- The two dashes that end the options. -/
  | dashes
  | option (name : OptionName) (value : Option String)
  /-- The one-letter help option with more letters joined to it. -/
  | helpWith (letters : String)
  | unknownOption (given : String)
deriving DecidableEq, Repr

/-- The argument as it was given, for items that may be files. -/
def Item.given : Item -> String
  | .plain given => given
  | .dashes => "--"
  | .option name _ => name.shown
  | .helpWith letters => "-h" ++ letters
  | .unknownOption given => given

/-- A text cut at its first equals sign. -/
def cutAtEquals (given : String) : String × Option String :=
  match given.toList.span (· ≠ '=') with
  | (_, []) => (given, none)
  | (name, _ :: value) => (String.ofList name, some (String.ofList value))

/-- An option with what is joined to one of its spellings. -/
def Item.joined (spelling : String) (name : OptionName) (value : String) : Item :=
  if spelling = "-h" then .helpWith value else .option name (some value)

/-- The options that a text may stand for, with their spellings: the long ones that begin with it,
or the one-letter option that it begins with. -/
def candidates (given : String) : List (String × Item) :=
  match given.toList with
  | '-' :: '-' :: _ =>
    let (start, value) := cutAtEquals given
    (OptionName.spellings.filter fun entry => start.isPrefixOf entry.1).map
      fun (spelling, name) => (spelling, .option name value)
  | '-' :: 'h' :: letters => [("-h", .helpWith (String.ofList letters))]
  | _ => []

/-- Whether a text is a minus sign and a number, which is no option. -/
def isNegativeNumber (given : String) : Bool :=
  let isDigit (c : Char) : Bool := (digitValue? c).isSome
  match given.toList with
  | '-' :: rest =>
    let number := if rest.getLast? = some '\n' then rest.dropLast else rest
    let (whole, fraction) := number.span isDigit
    match fraction with
    | [] => !whole.isEmpty
    | '.' :: digits => !digits.isEmpty && digits.all isDigit
    | _ => false
  | _ => false

/-- What an argument before the end of the options looks like. -/
def itemOf (given : String) : Except Stop Item :=
  if given.toList.head? ≠ some '-' then .ok (.plain given)
  else match OptionName.spellings.lookup given with
  | some name => .ok (.option name none)
  | none =>
    if given.length = 1 then .ok (.plain given)
    else
      let (start, value) := cutAtEquals given
      match value, OptionName.spellings.lookup start with
      | some value, some name => .ok (.joined start name value)
      | _, _ =>
        match candidates given with
        | [(_, item)] => .ok item
        | [] =>
          if isNegativeNumber given || given.toList.contains ' ' then .ok (.plain given)
          else .ok (.unknownOption given)
        | several => .error (.complaint (.ambiguous given (several.map (·.1))))

/-- What the arguments look like. -/
def itemsOf : List String -> Except Stop (List Item)
  | [] => .ok []
  | "--" :: rest => .ok (.dashes :: rest.map .plain)
  | given :: rest => do
    let item ← itemOf given
    let items ← itemsOf rest
    pure (item :: items)

/-- A command line that has been read in part. -/
structure Progress where
  arguments : Arguments
  /-- Whether the files have been found. -/
  hasFiles : Bool
  /-- The arguments since the last option, in reverse order. -/
  run : List Item
  extras : List String
deriving DecidableEq, Repr

namespace Progress

/-- The start of a command line. -/
def start : Progress := ⟨.none, false, [], []⟩

/-- End a run of arguments: the first one that holds anything but dashes is the files, all others
are not recognised. -/
def endRun (progress : Progress) : Progress :=
  let run := progress.run.reverse
  let given := run.map Item.given
  if !progress.hasFiles && !(run.filter (· ≠ .dashes)).isEmpty then
    { progress with
      arguments := { progress.arguments with files := given.erase "--" }
      hasFiles := true
      run := [] }
  else { progress with run := [], extras := progress.extras ++ given }

/-- Set the value of an option, which must be one that has a value. -/
def setValue (progress : Progress) (name : OptionName) (value : String) : Except Stop Progress :=
  let arguments :=
    { progress.arguments with lost := progress.arguments.lost.filter (· ≠ name) }
  let set (arguments : Arguments) : Except Stop Progress :=
    .ok { progress with arguments := arguments }
  match name with
  | .config => set { arguments with config := some value }
  | .java => set { arguments with java := some value }
  | .jar => set { arguments with jar := some value }
  | .command => set { arguments with command := some value }
  | .logLevel => set { arguments with logLevel := some value }
  | .logDir => set { arguments with logDir := some value }
  | .timeout => match Binary64.ofText? value with
    | some seconds => set { arguments with timeout := some seconds }
    | none => .error (.complaint (.notANumber .timeout value))
  | .help | .json | .listVariables => .error (.complaint (.unwantedValue name value))

/-- Take back the value of an option. -/
def unset (arguments : Arguments) : OptionName -> Arguments
  | .config => { arguments with config := none }
  | .java => { arguments with java := none }
  | .jar => { arguments with jar := none }
  | .command => { arguments with command := none }
  | .logLevel => { arguments with logLevel := none }
  | .logDir => { arguments with logDir := none }
  | .timeout => { arguments with timeout := none }
  | .help | .json | .listVariables => arguments

/-- Set an option to the value that is joined to it. Two dashes are lost on the way. -/
def setJoined (progress : Progress) (name : OptionName) (value : String) :
    Except Stop Progress :=
  if value = "--" && name.hasValue then
    let arguments := unset progress.arguments name
    .ok { progress with arguments := { arguments with lost := name :: arguments.lost } }
  else progress.setValue name value

/-- Set an option that has no value. -/
def setFlag (progress : Progress) (name : OptionName) : Except Stop Progress :=
  match name with
  | .help => .error .help
  | .json => .ok { progress with arguments := { progress.arguments with json := true } }
  | .listVariables =>
    .ok { progress with arguments := { progress.arguments with listsVariables := true } }
  | _ => .error (.complaint (.noValue name))

end Progress

/-- Where letters that are joined to the one-letter help option lead. The letter may be repeated,
but the option has no value. -/
def stopOfHelpWith : List Char -> Stop
  | ['h'] => .help
  | 'h' :: letters => stopOfHelpWith letters
  | letters => .complaint (.unwantedValue .help (String.ofList letters))

/-- Read items from a state on. -/
def readItems (progress : Progress) : List Item -> Except Stop Progress
  | [] => .ok progress.endRun
  | .unknownOption given :: items =>
    let ended := progress.endRun
    readItems { ended with extras := ended.extras ++ [given] } items
  | .helpWith letters :: _ => .error (stopOfHelpWith letters.toList)
  | .option name (some value) :: items => do
    let next ← progress.endRun.setJoined name value
    readItems next items
  | .option name none :: .plain value :: items =>
    if name.hasValue then do
      let next ← progress.endRun.setValue name value
      readItems next items
    else do
      let next ← progress.endRun.setFlag name
      readItems { next with run := [.plain value] } items
  | .option name none :: items => do
    let next ← progress.endRun.setFlag name
    readItems next items
  | item :: items => readItems { progress with run := item :: progress.run } items

/-- Read a command line. -/
def parse (given : List String) : Except Stop Arguments := do
  let items ← itemsOf given
  let progress ← readItems .start items
  if !progress.hasFiles then throw (.complaint .noFiles)
  if !progress.extras.isEmpty then throw (.complaint (.unrecognized progress.extras))
  pure progress.arguments

/-- How to call the program. -/
def usage : String :=
"usage: sqflint [-h] [--config CONFIG] [--java JAVA] [--jar JAR]
               [--command COMMAND] [--timeout TIMEOUT] [--json] [--variables]
               [--log-level LOG_LEVEL] [--log-dir LOG_DIR]
               files [files ...]
"

/-- What the program and its options do. -/
def helpText : String :=
  usage ++ "
SQFLint - lint SQF scripts

positional arguments:
  files                 SQF files to lint ('-' reads stdin)

options:
  -h, --help            show this help message and exit
  --config CONFIG       JSON configuration file path
  --java JAVA           Java executable (default: JAVA_HOME, then PATH)
  --jar JAR             Path to SQFLint.jar
  --command COMMAND     Full linter command, replaces java -jar
  --timeout TIMEOUT     Timeout per file in seconds (0 = none)
  --json                Print results as JSON
  --variables           Also list variables
  --log-level LOG_LEVEL
                        Console log level (default: WARNING)
  --log-dir LOG_DIR     Also write logs to this directory
"

/-- The text of a complaint, with the usage before it and without a line ending behind it. -/
def complaintText (complaint : Complaint) : String :=
  usage ++ "sqflint: error: " ++ complaint.message

end LintClient.CommandLine
