import LintClient.Text.Blank

/-!
# Shell words

Launch scripts are written for the shell. A word of a script is a sequence of pieces: characters,
and expansions, which stand for values that are known only when the command runs. Every piece knows
whether it stands in quotes.
-/

namespace LintClient.Shell

/-- What a fallback does. -/
inductive FallbackKind where
  /-- Stand in for the missing value. -/
  | use
  /-- Stand in, and become the value. -/
  | assign
  /-- Take the place of a value that is there. -/
  | replace
  /-- Give up, with the fallback as the complaint. -/
  | refuse
deriving DecidableEq, Repr

/-- What is written in place of the value of a parameter. -/
structure Fallback where
  kind : FallbackKind
  /-- Whether an empty value counts as missing. -/
  orEmpty : Bool
  text : List Char
deriving DecidableEq, Repr

/-- What is cut off a value: the shortest or longest part at one end that a pattern matches. -/
structure Trimming where
  atEnd : Bool
  longest : Bool
  pattern : List Char
deriving DecidableEq, Repr

/-- Something that stands for a value. -/
inductive Expansion where
  | parameter (name : String)
  | withFallback (name : String) (fallback : Fallback)
  | trimmed (name : String) (trimming : Trimming)
  /-- The number of characters of a parameter. -/
  | length (name : String)
  /-- What a script writes. -/
  | output (script : List Char)
  | arithmetic (expression : List Char)
deriving DecidableEq, Repr

/-- A piece of a word. -/
inductive Piece where
  | char (c : Char) (quoted : Bool)
  | expansion (expansion : Expansion) (quoted : Bool)
  /-- A pair of quotes, which makes a word even if nothing stands between them. -/
  | quotes
deriving DecidableEq, Repr

/-- A word before its expansions are replaced. -/
abbrev Word := List Piece

/-- Why a text is no script. -/
inductive ScriptFault where
  | openQuote
  | unexpected
deriving DecidableEq, Repr

/-- The wording of a fault. -/
def ScriptFault.message : ScriptFault -> String
  | .openQuote => "Syntax error: Unterminated quoted string"
  | .unexpected => "Syntax error"

/-- The quote that encloses a script whose output is wanted. -/
def backquote : Char := Char.ofNat 0x60

/-- Whether a character may start the name of a parameter. -/
def isNameStart (c : Char) : Bool :=
  c.isAlpha || c == '_'

/-- Whether a character may stand in the name of a parameter. -/
def isNamePart (c : Char) : Bool :=
  c.isAlphanum || c == '_'

/-- Whether a character ends a word outside quotes. -/
def endsWord (c : Char) : Bool :=
  c == ' ' || c == '\t' || "\n;&|<>()".toList.contains c

/-- Whether a backslash in double quotes takes away the meaning of a character. -/
def isEscapedInQuotes (c : Char) : Bool :=
  c == '$' || c == '"' || c == '\\' || c == backquote

/-! ## Text in marks -/

/-- A text up to the double quote that closes it, and what stands behind the quote. -/
def upToQuote (inner : List Char) : List Char -> Option (List Char × List Char)
  | [] => none
  | '"' :: rest => some (inner.reverse, rest)
  | '\\' :: c :: rest => upToQuote (c :: '\\' :: inner) rest
  | c :: rest => upToQuote (c :: inner) rest

/-- A script up to the backquote that closes it, and what stands behind the quote. Backslashes that
protect it from the quotes are taken away. -/
def upToBackquote (inner : List Char) : List Char -> Option (List Char × List Char)
  | [] => none
  | '\\' :: c :: rest =>
    if c == backquote || c == '\\' || c == '$' then upToBackquote (c :: inner) rest
    else upToBackquote (c :: '\\' :: inner) rest
  | c :: rest =>
    if c == backquote then some (inner.reverse, rest) else upToBackquote (c :: inner) rest

/-- A text up to the mark that closes it, and what stands behind the mark. Quoted text and text
between further pairs of marks is passed over; `depth` such pairs are open. -/
def upTo (opening closing : Char) (fuel depth : Nat) (inner : List Char) :
    List Char -> Option (List Char × List Char)
  | [] => none
  | c :: rest =>
    match fuel with
    | 0 => none
    | fuel + 1 =>
      if c == '\\' then
        match rest with
        | next :: after => upTo opening closing fuel depth (next :: c :: inner) after
        | [] => none
      else if c == '\'' then
        match rest.span (· ≠ '\'') with
        | (quoted, _ :: after) =>
          upTo opening closing fuel depth ('\'' :: quoted.reverse ++ '\'' :: inner) after
        | _ => none
      else if c == '"' then
        match upToQuote [] rest with
        | some (quoted, after) =>
          upTo opening closing fuel depth ('"' :: quoted.reverse ++ '"' :: inner) after
        | none => none
      else if c == opening then upTo opening closing fuel (depth + 1) (c :: inner) rest
      else if c == closing then
        match depth with
        | 0 => some (inner.reverse, rest)
        | depth + 1 => upTo opening closing fuel depth (c :: inner) rest
      else upTo opening closing fuel depth (c :: inner) rest

/-- A text up to the mark that closes it, and what stands behind the mark. -/
def closedBy (opening closing : Char) (text : List Char) : Option (List Char × List Char) :=
  upTo opening closing text.length 0 [] text

/-! ## Expansions -/

/-- Whether a parameter of the shell itself is named by a character. -/
def isSpecialName (c : Char) : Bool :=
  c.isDigit || "@*#?$!-".toList.contains c

/-- The name of a parameter at the start of a text, and what stands behind it. -/
def parameterName? : List Char -> Option (String × List Char)
  | [] => none
  | c :: rest =>
    if isSpecialName c then some (String.ofList [c], rest)
    else if isNameStart c then
      let (name, after) := rest.span isNamePart
      some (String.ofList (c :: name), after)
    else none

/-- The kind of a fallback with the given mark. -/
def fallbackKind? (c : Char) : Option FallbackKind :=
  List.lookup c [('-', .use), ('=', .assign), ('+', .replace), ('?', .refuse)]

/-- What stands between braces behind the name of a parameter. -/
def withOperation? (name : String) : List Char -> Option Expansion
  | [] => some (.parameter name)
  | ':' :: c :: text => (fallbackKind? c).map fun kind => .withFallback name ⟨kind, true, text⟩
  | '%' :: '%' :: pattern => some (.trimmed name ⟨true, true, pattern⟩)
  | '%' :: pattern => some (.trimmed name ⟨true, false, pattern⟩)
  | '#' :: '#' :: pattern => some (.trimmed name ⟨false, true, pattern⟩)
  | '#' :: pattern => some (.trimmed name ⟨false, false, pattern⟩)
  | c :: text => (fallbackKind? c).map fun kind => .withFallback name ⟨kind, false, text⟩

/-- The expansion that stands between braces. -/
def inBraces? (text : List Char) : Option Expansion :=
  let plain : Option Expansion := do
    let (name, rest) ← parameterName? text
    withOperation? name rest
  match text with
  | '#' :: c :: rest =>
    match parameterName? (c :: rest) with
    | some (name, []) => some (.length name)
    | _ => plain
  | _ => plain

/-- The expansion behind a dollar sign, and what stands behind it. -/
def expansion? (text : List Char) : Option (Expansion × List Char) :=
  match text with
  | '\x7b' :: rest => do
    let (inner, after) ← closedBy '\x7b' '\x7d' rest
    let expansion ← inBraces? inner
    pure (expansion, after)
  | '(' :: rest => do
    let (inner, after) ← closedBy '(' ')' rest
    match inner, inner.getLast? with
    | '(' :: expression, some ')' => pure (.arithmetic expression.dropLast, after)
    | _, _ => pure (.output inner, after)
  | _ => (parameterName? text).map fun (name, after) => (.parameter name, after)

/-! ## Words -/

/-- What is read of a word and what is left, or why the word does not end. -/
abbrev WordReading := Except ScriptFault (Word × List Char)

/-- Read quoted text in at most `fuel` steps: up to the closing quote if there is one, and otherwise
to the end. The pieces are collected in reverse order. -/
def readQuoted (hasEnd : Bool) (fuel : Nat) (word : Word) : List Char -> WordReading
  | [] => if hasEnd then .error .openQuote else .ok (word, [])
  | c :: rest =>
    match fuel with
    | 0 => .error .openQuote
    | fuel + 1 =>
      if c == '"' && hasEnd then .ok (word, rest)
      else if c == backquote then
        match upToBackquote [] rest with
        | some (script, after) =>
          readQuoted hasEnd fuel (.expansion (.output script) true :: word) after
        | none => .error .openQuote
      else match c, rest, expansion? rest with
      | '\\', '\n' :: after, _ => readQuoted hasEnd fuel word after
      | '\\', next :: after, _ =>
        if isEscapedInQuotes next && (hasEnd || next ≠ '"') then
          readQuoted hasEnd fuel (.char next true :: word) after
        else readQuoted hasEnd fuel (.char c true :: word) rest
      | '$', _, some (expansion, after) =>
        readQuoted hasEnd fuel (.expansion expansion true :: word) after
      | _, _, _ => readQuoted hasEnd fuel (.char c true :: word) rest

/-- Read a word up to a character that ends it, in at most `fuel` steps. The pieces are collected in
reverse order. -/
def readWord (ends : Char -> Bool) (fuel : Nat) (word : Word) : List Char -> WordReading
  | [] => .ok (word, [])
  | c :: rest =>
    match fuel with
    | 0 => .ok (word, c :: rest)
    | fuel + 1 =>
      if ends c then .ok (word, c :: rest)
      else if c == backquote then
        match upToBackquote [] rest with
        | some (script, after) =>
          readWord ends fuel (.expansion (.output script) false :: word) after
        | none => .error .openQuote
      else match c, rest, expansion? rest with
      | '\'', _, _ =>
        match rest.span (· ≠ '\'') with
        | (quoted, _ :: after) =>
          readWord ends fuel ((quoted.map (.char · true)).reverse ++ .quotes :: word) after
        | _ => .error .openQuote
      | '"', _, _ =>
        match readQuoted true rest.length (.quotes :: word) rest with
        | .ok (word, after) => readWord ends fuel word after
        | .error fault => .error fault
      | '\\', '\n' :: after, _ => readWord ends fuel word after
      | '\\', next :: after, _ => readWord ends fuel (.char next true :: word) after
      | '$', _, some (expansion, after) =>
        readWord ends fuel (.expansion expansion false :: word) after
      | _, _, _ => readWord ends fuel (.char c false :: word) rest

/-- A text as quoted text without quotes around it. Text that is not well formed is taken as it
is. -/
def quotedWord (text : List Char) : Word :=
  match readQuoted false text.length [] text with
  | .ok (word, _) => word.reverse
  | .error _ => text.map (.char · true)

/-- A whole text as one word. Text that is not well formed is taken as it is. -/
def wholeWord (text : List Char) : Word :=
  match readWord (fun _ => false) text.length [] text with
  | .ok (word, _) => word.reverse
  | .error _ => text.map (.char · true)

end LintClient.Shell
