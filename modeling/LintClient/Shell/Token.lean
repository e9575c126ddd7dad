import LintClient.Shell.Word

/-!
# Shell tokens

The text of a script is cut into words and marks. A text that is written below the line that asks
for it is brought to the place where it is asked for.
-/

namespace LintClient.Shell

/-- A mark between words. -/
inductive Operator where
  | newline
  | semicolon
  /-- The end of a case. -/
  | caseEnd
  | background
  | andIf
  | orIf
  | pipe
  | openParen
  | closeParen
deriving DecidableEq, Repr

/-- What a redirection does to a descriptor. -/
inductive Direction where
  | input
  | output
  | append
  /-- Make it a copy of another descriptor. -/
  | copy
  /-- Read the target itself. -/
  | text
deriving DecidableEq, Repr

/-- A part of a script. -/
inductive Token where
  | word (word : Word)
  | operator (operator : Operator)
  /-- A redirection of a descriptor; the word behind it is its target. -/
  | redirection (descriptor : Nat) (direction : Direction)
deriving DecidableEq, Repr

/-- The operator at the start of a text, and what stands behind it. -/
def operator? : List Char -> Option (Operator × List Char)
  | '\n' :: rest => some (.newline, rest)
  | ';' :: ';' :: rest => some (.caseEnd, rest)
  | ';' :: rest => some (.semicolon, rest)
  | '&' :: '&' :: rest => some (.andIf, rest)
  | '&' :: rest => some (.background, rest)
  | '|' :: '|' :: rest => some (.orIf, rest)
  | '|' :: rest => some (.pipe, rest)
  | '(' :: rest => some (.openParen, rest)
  | ')' :: rest => some (.closeParen, rest)
  | _ => none

/-- The redirection at the start of a text, and what stands behind it. -/
def redirection? (text : List Char) : Option ((Nat × Direction) × List Char) :=
  let (digits, rest) := text.span Char.isDigit
  let descriptor (usual : Nat) : Nat := ((String.ofList digits).toNat?).getD usual
  match rest with
  | '<' :: '<' :: rest => some ((descriptor 0, .text), rest)
  | '<' :: '&' :: rest => some ((descriptor 0, .copy), rest)
  | '<' :: rest => some ((descriptor 0, .input), rest)
  | '>' :: '&' :: rest => some ((descriptor 1, .copy), rest)
  | '>' :: '>' :: rest => some ((descriptor 1, .append), rest)
  | '>' :: '|' :: rest => some ((descriptor 1, .output), rest)
  | '>' :: rest => some ((descriptor 1, .output), rest)
  | _ => none

/-- The characters of a word as they are written. -/
def charactersOf (word : Word) : List Char :=
  word.filterMap fun
    | .char c _ => some c
    | _ => none

/-- Whether some piece of a word is quoted. -/
def hasQuotes (word : Word) : Bool :=
  word.any fun
    | .char _ quoted => quoted
    | .expansion _ quoted => quoted
    | .quotes => true

/-- A text that stands below its line, up to a line that marks its end, and what is left of the
script. The mark stands at the start of `text`; if it is quoted, nothing is replaced in the text. A
dash in front of the mark takes away the tabs at the start of each line. -/
def textBelow (text : List Char) : Except ScriptFault (Word × List Char) := do
  let (withoutTabs, start) := match text with
    | '-' :: rest => (true, rest)
    | _ => (false, text)
  let start := start.dropWhile fun c => c == ' ' || c == '\t'
  let (reversed, after) ← readWord endsWord start.length [] start
  let (line, below) := after.span (· ≠ '\n')
  let clean (line : List Char) : List Char :=
    if withoutTabs then line.dropWhile (· == '\t') else line
  let mark := charactersOf reversed.reverse
  let lines := (Text.splitAt '\n' (below.drop 1)).map clean
  let (inside, outside) := lines.span (· ≠ mark)
  let body := inside.flatMap fun line => line ++ ['\n']
  let word := if hasQuotes reversed then body.map (.char · true) else quotedWord body
  pure (word, line ++ '\n' :: Text.join ['\n'] (outside.drop 1))

/-- The tokens of a text, read in at most `fuel` steps. -/
def tokensWithin (fuel : Nat) (text : List Char) : Except ScriptFault (List Token) :=
  match fuel, text with
  | _, [] => .ok []
  | 0, _ => .error .unexpected
  | fuel + 1, c :: rest =>
    if c == ' ' || c == '\t' then tokensWithin fuel rest
    else if c == '#' then tokensWithin fuel (rest.dropWhile (· ≠ '\n'))
    else match operator? text, redirection? text with
    | some (operator, after), _ => do
      let tokens ← tokensWithin fuel after
      pure (.operator operator :: tokens)
    | none, some ((descriptor, .text), after) => do
      let (word, after) ← textBelow after
      let tokens ← tokensWithin fuel after
      pure (.redirection descriptor .text :: .word word :: tokens)
    | none, some ((descriptor, direction), after) => do
      let tokens ← tokensWithin fuel after
      pure (.redirection descriptor direction :: tokens)
    | none, none =>
      match c, rest with
      | '\\', '\n' :: after => tokensWithin fuel after
      | _, _ => do
        let (word, after) ← readWord endsWord text.length [] text
        let tokens ← tokensWithin fuel after
        pure (.word word.reverse :: tokens)

/-- The tokens of a script. -/
def tokens (text : List Char) : Except ScriptFault (List Token) :=
  tokensWithin (text.length + 2) text

end LintClient.Shell
