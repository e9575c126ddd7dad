import LintClient.Host.Program
import LintClient.Shell.Arithmetic
import LintClient.Shell.Machine
import LintClient.Shell.Pattern

/-!
# From words to fields

The fields of a command are its words with the values of their expansions put in. A value in quotes
stays in one field, a value outside quotes is cut at blanks, and all arguments in quotes make one
field each. Since a script may stand in a word, the machine goes on while words are expanded.
-/

namespace LintClient.Shell

/-- The fields so far and the one at hand, all in reverse order. -/
structure Fields where
  finished : List (List Char)
  current : Option (List Char)
deriving DecidableEq, Repr

namespace Fields

/-- No field has begun. -/
def empty : Fields := ⟨[], none⟩

/-- Begin a field unless one is at hand. -/
def begin (fields : Fields) : Fields :=
  { fields with current := some (fields.current.getD []) }

/-- Put characters into the field at hand. -/
def put (fields : Fields) (characters : List Char) : Fields :=
  { fields with current := some (characters.reverse ++ fields.current.getD []) }

/-- End the field at hand, if there is one. -/
def cut (fields : Fields) : Fields :=
  match fields.current with
  | some field => ⟨field.reverse :: fields.finished, none⟩
  | none => fields

/-- Put texts into fields of their own; the first one joins the field at hand, and the last one
stays at hand. -/
def putEach (fields : Fields) : List String -> Fields
  | [] => fields
  | [last] => fields.put last.toList
  | text :: texts => putEach (fields.put text.toList).cut texts

/-- Whether a character separates fields. -/
def isSeparator (c : Char) : Bool :=
  c == ' ' || c == '\t' || c == '\n'

/-- Put a value that is cut at blanks. -/
def putCut (fields : Fields) (value : List Char) : Fields :=
  value.foldl (fun fields c => if isSeparator c then fields.cut else fields.put [c]) fields

/-- All fields in order. -/
def toList (fields : Fields) : List String :=
  (fields.cut.finished.reverse).map String.ofList

end Fields

/-- Ways to run something from inside the shell, to a fixed depth. -/
structure Runner where
  /-- Run a program in the place of the running one. -/
  program : Machine -> Host.Program -> Machine
  /-- Go on with a script. -/
  script : Machine -> Script -> Machine

namespace Machine

/-- End the shell with a complaint about a word. -/
def refuse (machine : Machine) (text : String) : Machine :=
  (machine.complain (machine.name ++ ": 1: " ++ text)).exit 2

/-- What a script writes, without the newlines at its end. -/
def captured (runner : Runner) (machine : Machine) (text : List Char) : Machine × List Char :=
  match script text with
  | .error fault => (machine.refuse fault.message, [])
  | .ok script =>
    let after := runner.script { machine.fork.writeTo 1 .pipe with outgoing := [] } script
    let output := Text.Utf8.decodeLossy after.outgoing.reverse.flatten
    ({ machine.resume after with outgoing := machine.outgoing },
      Text.stripEnd (· == '\n') output)

/-- A way to find the value of an expansion. -/
abbrev Valuation := Machine -> Expansion -> Machine × List Char

/-- The characters of a word, each with whether it is quoted, where nothing is cut. -/
def characters (value : Valuation) (machine : Machine) (word : Word) :
    Machine × List (Char × Bool) :=
  let (machine, reversed) := word.foldl
    (fun (machine, reversed) piece =>
      match piece with
      | .char c quoted => (machine, (c, quoted) :: reversed)
      | .quotes => (machine, reversed)
      | .expansion expansion quoted =>
        let (machine, text) := value machine expansion
        (machine, text.reverse.map (·, quoted) ++ reversed))
    (machine, ([] : List (Char × Bool)))
  (machine, reversed.reverse)

/-- A word as one text, where nothing is cut. -/
def plainText (value : Valuation) (machine : Machine) (word : Word) : Machine × List Char :=
  let (machine, characters) := machine.characters value word
  (machine, characters.map (·.1))

/-- The number that a parameter counts as. -/
def number (machine : Machine) (name : String) : Int :=
  ((machine.parameter name).toInt?).getD 0

/-- The value of an expansion, where the words in it are expanded by `inner`. -/
def valueWith (inner : Valuation) (runner : Runner) : Valuation
  | machine, .parameter name => (machine, (machine.parameter name).toList)
  | machine, .length name => (machine, (toString (machine.parameter name).length).toList)
  | machine, .output text => machine.captured runner text
  | machine, .arithmetic expression =>
    let (machine, text) := machine.plainText inner (quotedWord expression)
    match Arithmetic.value? machine.number text with
    | some value => (machine, (toString value).toList)
    | none =>
      let complaint := "arithmetic expression: expecting primary: \""
      (machine.refuse (complaint ++ String.ofList text ++ "\""), [])
  | machine, .trimmed name ⟨atEnd, longest, pattern⟩ =>
    let (machine, pattern) := machine.characters inner (wholeWord pattern)
    let pattern := Pattern.ofCharacters pattern
    let value := (machine.parameter name).toList
    (machine, if atEnd then pattern.trimEnd longest value else pattern.trimStart longest value)
  | machine, .withFallback name ⟨kind, orEmpty, text⟩ =>
    let value := (machine.parameter? name).filter fun value => !(orEmpty && value.isEmpty)
    match kind, value with
    | .replace, none => (machine, [])
    | .replace, some _ => machine.plainText inner (wholeWord text)
    | _, some value => (machine, value.toList)
    | .use, none => machine.plainText inner (wholeWord text)
    | .assign, none =>
      let (machine, value) := machine.plainText inner (wholeWord text)
      (machine.setParameter name (String.ofList value), value)
    | .refuse, none =>
      let (machine, complaint) := machine.plainText inner (wholeWord text)
      (machine.refuse (name ++ ": " ++ String.ofList complaint), [])

/-- The value of an expansion, where words may stand within words `depth` times. -/
def value (depth : Nat) (runner : Runner) : Valuation :=
  match depth with
  | 0 => fun machine _ => (machine, [])
  | depth + 1 => valueWith (value depth runner) runner

/-- How deep words that stand within words are followed. -/
def wordDepth : Nat := 16

/-- A word as one text, where nothing is cut. -/
def textOf (runner : Runner) (machine : Machine) (word : Word) : Machine × String :=
  let (machine, text) := machine.plainText (value wordDepth runner) word
  (machine, String.ofList text)

/-- A word as a pattern. -/
def patternOf (runner : Runner) (machine : Machine) (word : Word) : Machine × Pattern :=
  let (machine, characters) := machine.characters (value wordDepth runner) word
  (machine, Pattern.ofCharacters characters)

/-- Put a piece of a word into fields. -/
def putPiece (runner : Runner) : Machine × Fields -> Piece -> Machine × Fields
  | (machine, fields), .char c _ => (machine, fields.put [c])
  | (machine, fields), .quotes => (machine, fields)
  | (machine, fields), .expansion (.parameter "@") true =>
    (machine, fields.putEach machine.arguments)
  | (machine, fields), .expansion expansion quoted =>
    let (machine, text) := value wordDepth runner machine expansion
    (machine, if quoted then fields.put text else fields.putCut text)

/-- Whether quotes make a word a field even if nothing stands in them. -/
def quotesCount (word : Word) : Bool :=
  word.contains .quotes && !word.contains (.expansion (.parameter "@") true)

/-- The fields that a word makes. -/
def fieldsOf (runner : Runner) (machine : Machine) (word : Word) : Machine × List String :=
  let start := if quotesCount word then Fields.empty.begin else .empty
  let (machine, fields) := word.foldl (putPiece runner) (machine, start)
  (machine, fields.toList)

/-- The fields that words make. -/
def fields (runner : Runner) (machine : Machine) (words : List Word) : Machine × List String :=
  words.foldl
    (fun (machine, fields) word =>
      let (machine, more) := machine.fieldsOf runner word
      (machine, fields ++ more))
    (machine, [])

end Machine

end LintClient.Shell
