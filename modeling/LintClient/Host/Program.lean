import LintClient.Host.Basic
import LintClient.Text.Source

/-!
# Programs

How the words of a command become a program to run. A word with a directory names a file, any other
word is looked up in the search path. A file is a tool, or it names the tool that interprets it in
its first line.
-/

namespace LintClient.Host

open Text (Source)

/-- A tool and the arguments that it is given. -/
structure Program where
  tool : Tool
  arguments : List String
deriving DecidableEq, Repr

/-- The interpreter that the first line of a file names, and the argument that goes with it. -/
def interpreter? (data : List UInt8) : Option (String × List String) :=
  match data with
  | 0x23 :: 0x21 :: rest =>
    let line := Text.Utf8.decodeLossy (rest.takeWhile (· ≠ 0x0A))
    let blank (c : Char) : Bool := c == ' ' || c == '\t'
    let (path, after) := (Text.strip blank line).span fun c => !blank c
    let argument := String.ofList (Text.strip blank after)
    if path.isEmpty then none
    else some (String.ofList path, if argument.isEmpty then [] else [argument])
  | _ => none

/-- The program in a file, where interpreters may be interpreted themselves `depth` times. -/
def programIn (host : Host) (depth : Nat) (path : String) (arguments : List String) :
    Except FileFault Program := do
  match ← host.find path with
  | .tool tool => pure ⟨tool, arguments⟩
  | .file data access =>
    if !access.execute then throw .denied
    match depth, interpreter? data with
    | depth + 1, some (interpreter, leading) =>
      programIn host depth interpreter (leading ++ path :: arguments)
    | _, _ => throw .notProgram
  | _ => throw .denied

/-- How often interpreters may be interpreted themselves. -/
def interpreterDepth : Nat := 5

/-- The program of the first candidate that can be run. Candidates that do not exist are passed
over, and the first other fault counts if there is no program. -/
def firstProgram (host : Host) (arguments : List String) :
    List String -> Except FileFault Program
  | [] => .error .missing
  | path :: paths =>
    match programIn host interpreterDepth path arguments, firstProgram host arguments paths with
    | .ok program, _ => .ok program
    | .error _, .ok program => .ok program
    | .error fault, .error later =>
      if fault = .missing || (fault = .notFolder && !paths.isEmpty) then .error later
      else .error fault

/-- Why a command cannot be started. -/
inductive StartFault where
  /-- A word holds a character that no word of a command may hold. -/
  | word
  /-- A word has halves of surrogate pairs that the operating system refuses. -/
  | foreign (run : Source.StrayRun)
  /-- A name with halves of surrogate pairs is the name of no program. -/
  | noProgram (name : Source)
  | file (error : FileError)
deriving DecidableEq, Repr

/-- The wording of a fault. -/
def StartFault.message : StartFault -> String
  | .word => "embedded null byte"
  | .foreign run => run.message
  | .noProgram name =>
    "[Errno " ++ toString FileFault.missing.number ++ "] " ++ FileFault.missing.message ++ ": "
      ++ name.quoted
  | .file error => error.message

/-- What is wrong with a word of a command. -/
def wordFault? (word : Source) : Option StartFault :=
  match word.foreignRun? with
  | some run => some (.foreign run)
  | none => if word.contains (.char '\x00') then some .word else none

/-- The number of bytes that a word of a command and a setting of its environment stay below. -/
def wordLimit : Nat := 131072

/-- The program of a command. -/
def programOf (host : Host) (name : String) (arguments : List String) :
    Except StartFault Program :=
  if holdsNul name || arguments.any holdsNul then .error .word
  else
    let candidates :=
      if hasDirectory name then [name]
      else host.searchPath.map fun directory => joinPath directory name
    match firstProgram host arguments candidates with
    | .error fault => .error (.file ⟨fault, name⟩)
    | .ok program =>
      let settings := host.environment.map fun (name, value) => name ++ "=" ++ value
      if (name :: arguments ++ settings).any fun word => wordLimit ≤ word.utf8ByteSize then
        .error (.file ⟨.wordTooLong, name⟩)
      else .ok program

end LintClient.Host
