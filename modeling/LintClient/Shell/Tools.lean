import LintClient.Number.Reading
import LintClient.Shell.Machine

/-!
# Small programs

The programs that the host knows besides the shell. Each reads and writes through the descriptors of
the machine and ends with a status.
-/

namespace LintClient.Shell

/-- Whether a character is an octal digit. -/
def isOctalDigit (c : Char) : Bool :=
  '0' ≤ c && c ≤ '7'

/-- The byte that octal digits denote. -/
def octalByte (digits : List Char) : UInt8 :=
  UInt8.ofNat (digits.foldl (fun value c => value * 8 + (c.toNat - '0'.toNat)) 0)

/-- The byte that a letter behind a backslash stands for. -/
def letterEscape? (c : Char) : Option UInt8 :=
  (List.lookup c [('a', 7), ('b', 8), ('t', 9), ('n', 10), ('v', 11), ('f', 12), ('r', 13),
    ('\\', 0x5C)])

/-- The bytes of a text whose escapes are replaced. Octal numbers have up to three digits, and if
`zeroed` possibly a zero in front of them. An unknown escape stays as it is. -/
def unescaped (zeroed : Bool) (fuel : Nat) : List Char -> List UInt8
  | [] => []
  | c :: rest =>
    match fuel with
    | 0 => []
    | fuel + 1 =>
      match c, rest with
      | '\\', next :: after =>
        if isOctalDigit next then
          let start := if zeroed && next = '0' then after else rest
          let digits := (start.take 3).takeWhile isOctalDigit
          octalByte digits :: unescaped zeroed fuel (start.drop digits.length)
        else match letterEscape? next with
          | some byte => byte :: unescaped zeroed fuel after
          | none => 0x5C :: unescaped zeroed fuel rest
      | _, _ => String.utf8EncodeChar c ++ unescaped zeroed fuel rest

/-- The bytes of an echoed text with its escapes replaced. -/
def echoed (text : String) : List UInt8 :=
  unescaped true text.length text.toList

/-- What one pass over a format does: the bytes, the arguments that are left, and whether it took
any. -/
structure Formatting where
  bytes : List UInt8
  arguments : List String
  took : Bool
deriving DecidableEq, Repr

/-- How a value is written in a format. -/
structure Directive where
  /-- Whether the value stands at the left of its place. -/
  atLeft : Bool
  /-- Whether zeros fill the place of a number. -/
  withZeros : Bool
  width : Nat
  /-- The number of characters of a text that are written at most. -/
  limit : Option Nat
  kind : Char
deriving DecidableEq, Repr

/-- The number at the start of a text, and what stands behind it. -/
def leadingNumber (text : List Char) : Option Nat × List Char :=
  let (digits, rest) := text.span Char.isDigit
  ((String.ofList digits).toNat?, rest)

/-- The directive behind a percent sign, and what stands behind it. -/
def directive? (text : List Char) : Option (Directive × List Char) :=
  let (flags, rest) := text.span fun c => "-+ 0#".toList.contains c
  let (width, rest) := leadingNumber rest
  let (limit, rest) := match rest with
    | '.' :: rest =>
      let (limit, rest) := leadingNumber rest
      (some (limit.getD 0), rest)
    | rest => (none, rest)
  match rest with
  | kind :: rest =>
    some (⟨flags.contains '-', flags.contains '0', width.getD 0, limit, kind⟩, rest)
  | [] => none

/-- The digits of a number in the base of a directive. -/
def Directive.digits (directive : Directive) (number : Int) : String :=
  let inBase (base : Nat) : String := String.ofList (Nat.toDigits base number.natAbs)
  if directive.kind = 'x' then inBase 16
  else if directive.kind = 'X' then String.ofList ((inBase 16).toList.map Char.toUpper)
  else if directive.kind = 'o' then inBase 8
  else toString number

/-- Fill the place of a value. -/
def Directive.placed (directive : Directive) (filling : UInt8) (bytes : List UInt8) :
    List UInt8 :=
  let missing := List.replicate (directive.width - bytes.length) filling
  if directive.atLeft then bytes ++ missing else missing ++ bytes

/-- The bytes that a directive writes for an argument. -/
def Directive.bytes (directive : Directive) (argument : String) : List UInt8 :=
  let limited (bytes : List UInt8) : List UInt8 := bytes.take (directive.limit.getD bytes.length)
  if directive.kind = 'b' then directive.placed 0x20 (limited (echoed argument))
  else if directive.kind = 'c' then
    directive.placed 0x20 (Text.Utf8.encode (argument.toList.take 1))
  else if directive.kind = 's' then
    directive.placed 0x20 (limited (Text.Utf8.encode argument.toList))
  else
    let digits := directive.digits (argument.toInt?.getD 0)
    directive.placed (if directive.withZeros && !directive.atLeft then 0x30 else 0x20)
      (Text.Utf8.encode digits.toList)

/-- One pass over a format. -/
def formatOnce (fuel : Nat) (format : List Char) (arguments : List String) : Formatting :=
  match fuel, format with
  | fuel + 1, '%' :: '%' :: rest =>
    let formatting := formatOnce fuel rest arguments
    { formatting with bytes := 0x25 :: formatting.bytes }
  | fuel + 1, '%' :: rest =>
    match directive? rest with
    | some (directive, rest) =>
      let formatting := formatOnce fuel rest (arguments.drop 1)
      ⟨directive.bytes (arguments.head?.getD "") ++ formatting.bytes, formatting.arguments, true⟩
    | none => ⟨Text.Utf8.encode format, arguments, false⟩
  | fuel + 1, c :: rest =>
    let (plain, after) := (c :: rest).span (· ≠ '%')
    let formatting := formatOnce fuel after arguments
    { formatting with bytes := unescaped false plain.length plain ++ formatting.bytes }
  | _, _ => ⟨[], arguments, false⟩

/-- The bytes of a format that is used again as long as there are arguments. -/
def formatted (fuel : Nat) (format : String) (arguments : List String) : List UInt8 :=
  let formatting := formatOnce (format.length + 1) format.toList arguments
  match fuel with
  | fuel + 1 =>
    if formatting.took && !formatting.arguments.isEmpty then
      formatting.bytes ++ formatted fuel format formatting.arguments
    else formatting.bytes
  | 0 => formatting.bytes

/-- The number of bytes that the first lines of some bytes take. -/
def lengthOfLines (lines : Nat) (bytes : List UInt8) : Nat :=
  (bytes.foldl
    (fun (state : Nat × Nat) (byte : UInt8) =>
      let (seen, length) := state
      if seen = lines then state
      else (if byte = 0x0A then seen + 1 else seen, length + 1))
    (0, 0)).2

/-- The number of bytes that a program takes from its input at a time. -/
def blockSize : Nat := 8192

/-- The part of a text that is wanted. -/
inductive Portion where
  | lines (count : Nat)
  | bytes (count : Nat)
deriving DecidableEq, Repr

/-- The number of bytes of the wanted part. -/
def Portion.length (bytes : List UInt8) : Portion -> Nat
  | .lines count => lengthOfLines count bytes
  | .bytes count => min count bytes.length

/-- The wanted part and the files that options and arguments ask for. -/
def headRequest (portion : Portion) : List String -> Option (Portion × List String)
  | "-n" :: count :: rest => count.toNat?.bind fun count => headRequest (.lines count) rest
  | "-c" :: count :: rest => count.toNat?.bind fun count => headRequest (.bytes count) rest
  | "--" :: rest => some (portion, rest)
  | argument :: rest =>
    match argument.toList with
    | '-' :: 'n' :: count =>
      (String.ofList count).toNat?.bind fun count => headRequest (.lines count) rest
    | '-' :: 'c' :: count =>
      (String.ofList count).toNat?.bind fun count => headRequest (.bytes count) rest
    | '-' :: c :: count =>
      (String.ofList (c :: count)).toNat?.bind fun count => headRequest (.lines count) rest
    | _ => some (portion, argument :: rest)
  | [] => some (portion, [])

/-- The seconds that an argument asks to sleep. -/
def sleepSeconds? (argument : String) : Option Binary64 :=
  let characters := argument.toList
  let factor : Option Nat := characters.getLast?.bind fun unit =>
    List.lookup unit [('s', 1), ('m', 60), ('h', 3600), ('d', 86400)]
  match factor with
  | some factor => do
    let number ← Binary64.ofText? (String.ofList characters.dropLast)
    pure ((List.replicate factor number).foldl (· + ·) 0)
  | none => Binary64.ofText? argument

/-- The name of the input as a file. -/
def inputPath : String := "/dev/stdin"

namespace Machine

/-- Read a file in the way of a program; the input if the path names it. If it cannot be read, the
program complains. -/
def content (machine : Machine) (program path : String) : Machine × Option (List UInt8) :=
  if path = "-" || path = inputPath then
    if machine.descriptors.intake = .closed then
      let closed := ": Bad file descriptor"
      let complaint := program ++ ": -" ++ closed ++ "\n" ++ program
        ++ ": closing standard input" ++ closed
      (machine.failing 1 complaint, none)
    else (machine.leave [], some machine.readable)
  else match machine.host.read path with
  | .ok bytes => (machine, some bytes)
  | .error error =>
    (machine.failing 1 (program ++ ": " ++ path ++ ": " ++ error.fault.message), none)

/-- Read all input, or else files, as one. -/
def contents (machine : Machine) (program : String) (files : List String) :
    Machine × List UInt8 :=
  let paths := if files.isEmpty then ["-"] else files
  let (machine, pieces) := paths.foldl
    (fun (machine, pieces) path =>
      let (machine, bytes) := machine.content program path
      (machine, bytes.getD [] :: pieces))
    (machine.withStatus 0, ([] : List (List UInt8)))
  (machine, pieces.reverse.flatten)

/-- Copy all input, or files, to the output. -/
def cat (machine : Machine) (arguments : List String) : Machine :=
  let files := if arguments.isEmpty then ["-"] else arguments
  files.foldl
    (fun machine path =>
      let (machine, bytes) := machine.content "cat" path
      machine.say "cat" (bytes.getD []))
    (machine.withStatus 0)

/-- Copy the first lines of the input, or of files, to the output. From the input whole blocks are
taken. -/
def head (machine : Machine) (arguments : List String) : Machine :=
  match headRequest (.lines 10) arguments with
  | none => machine.failing 1 "head: invalid option"
  | some (portion, []) =>
    if machine.descriptors.intake = .closed then
      machine.failing 1 "head: error reading 'standard input': Bad file descriptor"
    else
      let input := machine.readable
      let length := portion.length input
      let taken := (length + blockSize - 1) / blockSize * blockSize
      ((machine.withStatus 0).say "head" (input.take length)).leave (input.drop taken)
  | some (portion, files) =>
    files.foldl
      (fun machine path =>
        let (machine, bytes) := machine.content "head" path
        let bytes := bytes.getD []
        machine.say "head" (bytes.take (portion.length bytes)))
      (machine.withStatus 0)

/-- Write the arguments as one line; without a newline if the first one asks for that. -/
def echo (machine : Machine) (escapes : Bool) (arguments : List String) : Machine :=
  let (ending, texts) : List UInt8 × List String := match arguments with
    | "-n" :: texts => ([], texts)
    | texts => ([0x0A], texts)
  let text := " ".intercalate texts
  let bytes := if escapes then echoed text else Text.Utf8.encode text.toList
  (machine.withStatus 0).say "echo" (bytes ++ ending)

/-- Write the arguments in a format. -/
def printf (machine : Machine) (arguments : List String) : Machine :=
  match arguments with
  | [] => machine.failing 2 "printf: usage: printf format [arg ...]"
  | "--" :: format :: rest | format :: rest =>
    (machine.withStatus 0).say "printf" (formatted rest.length format rest)

/-- Sleep for the sum of the arguments. -/
def sleep (machine : Machine) (arguments : List String) : Machine :=
  match arguments.find? fun argument => (sleepSeconds? argument).isNone with
  | some argument =>
    machine.failing 1 ("sleep: invalid time interval ‘" ++ argument
      ++ "’\nTry 'sleep --help' for more information.")
  | none =>
    let seconds := arguments.filterMap sleepSeconds?
    if seconds.isEmpty then
      machine.failing 1 "sleep: missing operand\nTry 'sleep --help' for more information."
    else match Launch.momentAfter? (seconds.foldl (· + ·) 0) with
    | some duration => (machine.pass duration).withStatus 0
    | none => { machine with progress := .endless }

end Machine

end LintClient.Shell
