import LintClient.Shell.Token

/-!
# Shell scripts

The structure of a script: simple commands, joined by operators and compound commands. A script that
does not follow the grammar is refused as a whole.
-/

namespace LintClient.Shell

/-- A redirection with its target. -/
structure Redirection where
  descriptor : Nat
  direction : Direction
  target : Word
deriving DecidableEq, Repr

/-- A simple command. -/
structure Simple where
  assignments : List (String × Word)
  words : List Word
  redirections : List Redirection
deriving DecidableEq, Repr

/-- A script. -/
inductive Script where
  | nothing
  | simple (command : Simple)
  | sequence (first second : Script)
  | andThen (first second : Script)
  | orElse (first second : Script)
  | pipe (first second : Script)
  | background (body : Script)
  | negate (body : Script)
  | subshell (body : Script) (redirections : List Redirection)
  | group (body : Script) (redirections : List Redirection)
  /-- Do the body for each item; without items, for each argument of the script. -/
  | each (name : String) (items : Option (List Word)) (body : Script)
  | choose (condition yes no : Script)
  /-- Do the body if one of the patterns matches the subject. -/
  | matching (subject : Word) (patterns : List Word) (body otherwise : Script)
  /-- Give a name to a body, to be run as a command. -/
  | define (name : String) (body : Script)
  /-- Do the body as long as the condition succeeds, or fails. -/
  | repeating (succeeds : Bool) (condition body : Script)
deriving Repr

/-- The command without words, which succeeds. -/
def Script.success : Script :=
  .simple ⟨[], [], []⟩

/-- The text of a word without quotes and expansions. -/
def literal? (word : Word) : Option String :=
  let characters := word.filterMap fun
    | .char c false => some c
    | _ => none
  if characters.length = word.length then some (String.ofList characters) else none

/-- The words that have a meaning of their own at the start of a command. -/
def keywords : List String :=
  ["if", "then", "elif", "else", "fi", "for", "while", "until", "do", "done", "case", "esac",
    "\x7b", "\x7d", "!"]

/-- The words that end a list of commands. -/
def endingKeywords : List String :=
  ["then", "elif", "else", "fi", "do", "done", "esac", "\x7d"]

/-- The keyword at the start of some tokens. -/
def keyword? : List Token -> Option String
  | .word word :: _ => (literal? word).filter keywords.contains
  | _ => none

/-- The assignment that a word is. -/
def assignment? (word : Word) : Option (String × Word) :=
  let (name, rest) := word.span fun
    | .char c false => isNamePart c
    | _ => false
  let characters := charactersOf name
  match characters, rest with
  | first :: _, .char '=' false :: value =>
    if isNameStart first then some (String.ofList characters, value) else none
  | _, _ => none

/-- The redirections at the start of some tokens, and what is left. -/
def redirections : List Token -> List Redirection × List Token
  | .redirection descriptor direction :: .word target :: rest =>
    let (others, rest) := redirections rest
    (⟨descriptor, direction, target⟩ :: others, rest)
  | tokens => ([], tokens)

/-- A compound command with the redirections behind it. -/
def withTargets (read : Script × List Token) : Script × List Token :=
  match redirections read.2 with
  | ([], rest) => (read.1, rest)
  | (targets, rest) => (.group read.1 targets, rest)

/-- The simple command at the start of some tokens, and what is left. Assignments stand before its
first word; behind it they are words. -/
def commandOf (tokens : List Token) : Simple × List Token :=
  let (leading, rest) := tokens.span fun
    | .word word => (assignment? word).isSome
    | _ => false
  let assignments := leading.filterMap fun
    | .word word => assignment? word
    | _ => none
  let (command, left) := plainCommand rest
  ({ command with assignments }, left)
where
  /-- A simple command without assignments. -/
  plainCommand : List Token -> Simple × List Token
    | .redirection descriptor direction :: .word target :: rest =>
      let (command, rest) := plainCommand rest
      ({ command with
        redirections := ⟨descriptor, direction, target⟩ :: command.redirections }, rest)
    | .word word :: rest =>
      let (command, rest) := plainCommand rest
      ({ command with words := word :: command.words }, rest)
    | tokens => (⟨[], [], []⟩, tokens)

/-- Drop the newlines at the start of some tokens. -/
def skipNewlines (tokens : List Token) : List Token :=
  tokens.dropWhile (· == .operator .newline)

/-- A part of a script and what is left of its tokens. -/
abbrev ScriptReading := Except ScriptFault (Script × List Token)

/-- Go on behind a keyword. -/
def behind (keyword : String) (tokens : List Token) : Except ScriptFault (List Token) :=
  if keyword? tokens = some keyword then .ok tokens.tail else .error .unexpected

/-- Go on behind a word that has its meaning at this place only. -/
def behindWord (text : String) : List Token -> Except ScriptFault (List Token)
  | .word word :: rest => if literal? word = some text then .ok rest else .error .unexpected
  | _ => .error .unexpected

/-- The patterns of a case, and what stands behind the parenthesis that closes them. -/
def casePatterns (tokens : List Token) : Except ScriptFault (List Word × List Token) :=
  alternatives (match tokens with
    | .operator .openParen :: rest => rest
    | tokens => tokens)
where
  /-- Patterns with bars between them. -/
  alternatives : List Token -> Except ScriptFault (List Word × List Token)
    | .word pattern :: .operator .closeParen :: rest => .ok ([pattern], rest)
    | .word pattern :: .operator .pipe :: rest => do
      let (patterns, rest) ← alternatives rest
      pure (pattern :: patterns, rest)
    | _ => .error .unexpected

/-- The items of a loop from behind its name. -/
def loopItems (tokens : List Token) : Option (List Word) × List Token :=
  match skipNewlines tokens with
  | .word word :: rest =>
    if literal? word = some "in" then
      let (items, rest) := rest.span fun
        | .word _ => true
        | _ => false
      (some (items.filterMap fun
        | .word word => some word
        | _ => none), rest)
    else (none, tokens)
  | _ => (none, tokens)

/-- Drop the separators at the start of some tokens. -/
def skipSeparators (tokens : List Token) : List Token :=
  tokens.dropWhile fun token =>
    token == .operator .newline || token == .operator .semicolon

mutual

/-- Read commands up to a keyword that ends them, a closing parenthesis or the end. -/
def readList (fuel : Nat) (tokens : List Token) : ScriptReading :=
  match fuel, skipNewlines tokens with
  | _, [] => .ok (.nothing, [])
  | 0, _ => .error .unexpected
  | fuel + 1, tokens =>
    let ends := (keyword? tokens).any endingKeywords.contains
    let closes := tokens.head? = some (.operator .closeParen)
      || tokens.head? = some (.operator .caseEnd)
    if ends || closes then .ok (.nothing, tokens)
    else do
      let (first, rest) ← readChain fuel tokens
      match rest with
      | .operator .background :: rest => do
        let (others, rest) ← readList fuel rest
        pure (.sequence (.background first) others, rest)
      | .operator .semicolon :: rest | .operator .newline :: rest => do
        let (others, rest) ← readList fuel rest
        pure (.sequence first others, rest)
      | rest => pure (first, rest)

/-- Read pipelines joined by conditions. -/
def readChain (fuel : Nat) (tokens : List Token) : ScriptReading :=
  match fuel with
  | 0 => .error .unexpected
  | fuel + 1 => do
    let (first, rest) ← readPipeline fuel tokens
    continueChain fuel first rest

/-- Read what is joined to a chain. Both conditions bind equally, from left to right. -/
def continueChain (fuel : Nat) (first : Script) (tokens : List Token) : ScriptReading :=
  match fuel, tokens with
  | 0, _ => .error .unexpected
  | fuel + 1, .operator .andIf :: rest => do
    let (second, rest) ← readPipeline fuel (skipNewlines rest)
    continueChain fuel (.andThen first second) rest
  | fuel + 1, .operator .orIf :: rest => do
    let (second, rest) ← readPipeline fuel (skipNewlines rest)
    continueChain fuel (.orElse first second) rest
  | _, tokens => .ok (first, tokens)

/-- Read commands joined by pipes. -/
def readPipeline (fuel : Nat) (tokens : List Token) : ScriptReading :=
  match fuel with
  | 0 => .error .unexpected
  | fuel + 1 =>
    if keyword? tokens = some "!" then do
      let (body, rest) ← readPipeline fuel tokens.tail
      pure (.negate body, rest)
    else do
      let (first, rest) ← readCommand fuel tokens
      match rest with
      | .operator .pipe :: rest => do
        let (second, rest) ← readPipeline fuel (skipNewlines rest)
        pure (.pipe first second, rest)
      | rest => pure (first, rest)

/-- Read one command. -/
def readCommand (fuel : Nat) (tokens : List Token) : ScriptReading :=
  match fuel with
  | 0 => .error .unexpected
  | fuel + 1 =>
    match tokens, keyword? tokens with
    | .operator .openParen :: rest, _ => do
      let (body, rest) ← readList fuel rest
      match rest with
      | .operator .closeParen :: rest =>
        let (targets, rest) := redirections rest
        pure (.subshell body targets, rest)
      | _ => .error .unexpected
    | _ :: rest, some "\x7b" => do
      let (body, rest) ← readList fuel rest
      let rest ← behind "\x7d" rest
      let (targets, rest) := redirections rest
      pure (.group body targets, rest)
    | _ :: rest, some "if" => withTargets <$> readBranches fuel rest
    | _ :: rest, some "while" => withTargets <$> readLoop fuel true rest
    | _ :: rest, some "until" => withTargets <$> readLoop fuel false rest
    | _ :: .word word :: rest, some "for" => do
      let some name := literal? word | .error .unexpected
      let (items, rest) := loopItems rest
      let (body, rest) ← readBody fuel rest
      pure (withTargets (.each name items body, rest))
    | _ :: .word subject :: rest, some "case" => do
      let rest ← behindWord "in" (skipNewlines rest)
      withTargets <$> readCases fuel subject (skipNewlines rest)
    | _, some _ => .error .unexpected
    | .word word :: .operator .openParen :: .operator .closeParen :: rest, none => do
      let some name := literal? word | .error .unexpected
      let (body, rest) ← readCommand fuel (skipNewlines rest)
      pure (.define name body, rest)
    | _, none =>
      let (command, rest) := commandOf tokens
      if command.words.isEmpty && command.assignments.isEmpty && command.redirections.isEmpty then
        .error .unexpected
      else .ok (.simple command, rest)

/-- Read the body of a loop. -/
def readBody (fuel : Nat) (tokens : List Token) : ScriptReading :=
  match fuel with
  | 0 => .error .unexpected
  | fuel + 1 => do
    let rest ← behind "do" (skipSeparators tokens)
    let (body, rest) ← readList fuel rest
    let rest ← behind "done" rest
    pure (body, rest)

/-- Read a loop from behind its keyword. -/
def readLoop (fuel : Nat) (succeeds : Bool) (tokens : List Token) : ScriptReading :=
  match fuel with
  | 0 => .error .unexpected
  | fuel + 1 => do
    let (condition, rest) ← readList fuel tokens
    let (body, rest) ← readBody fuel rest
    pure (.repeating succeeds condition body, rest)

/-- Read the branches of a choice from behind its keyword. -/
def readBranches (fuel : Nat) (tokens : List Token) : ScriptReading :=
  match fuel with
  | 0 => .error .unexpected
  | fuel + 1 => do
    let (condition, rest) ← readList fuel tokens
    let rest ← behind "then" rest
    let (yes, rest) ← readList fuel rest
    match keyword? rest with
    | some "elif" => do
      let (no, rest) ← readBranches fuel rest.tail
      pure (.choose condition yes no, rest)
    | some "else" => do
      let (no, rest) ← readList fuel rest.tail
      let rest ← behind "fi" rest
      pure (.choose condition yes no, rest)
    | _ => do
      let rest ← behind "fi" rest
      pure (.choose condition yes .success, rest)

/-- Read the cases of a subject up to their end. -/
def readCases (fuel : Nat) (subject : Word) (tokens : List Token) : ScriptReading :=
  match fuel with
  | 0 => .error .unexpected
  | fuel + 1 =>
    if keyword? tokens = some "esac" then .ok (.success, tokens.tail)
    else do
      let (patterns, rest) ← casePatterns tokens
      let (body, rest) ← readList fuel rest
      match rest with
      | .operator .caseEnd :: rest => do
        let (otherwise, rest) ← readCases fuel subject (skipNewlines rest)
        pure (.matching subject patterns body otherwise, rest)
      | rest => do
        let rest ← behind "esac" rest
        pure (.matching subject patterns body .success, rest)

end

/-- The script that a text spells. -/
def script (text : List Char) : Except ScriptFault Script := do
  let tokens ← tokens text
  let (script, rest) ← readList (8 * (tokens.length + 1)) tokens
  if rest.isEmpty then pure script else .error .unexpected

end LintClient.Shell
