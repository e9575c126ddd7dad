/-!
# Command lines as text

A command written on one line is cut into words. Blanks separate words; single quotes keep
everything, double quotes everything but a backslash before a quote or a backslash, and a
backslash outside quotes keeps the next character. Quoted pieces without a blank in between form
one word, and a quoted empty piece is a word of its own.
-/

namespace LintClient.Command

/-- Why a text is no command. -/
inductive WordFault where
  | openQuote
  | openEscape
deriving DecidableEq, Repr

/-- The wording of a fault. -/
def WordFault.message : WordFault -> String
  | .openQuote => "No closing quotation"
  | .openEscape => "No escaped character"

/-- Whether a character separates words. -/
def isSeparator (c : Char) : Bool :=
  c == ' ' || c == '\t' || c == '\r' || c == '\n'

/-- Where the reader of a command is. -/
inductive Place where
  /-- Between words. -/
  | outside
  /-- In a word, outside quotes. -/
  | inWord
  | inSingle
  | inDouble
  /-- Behind a backslash outside quotes. -/
  | escaped
  /-- Behind a backslash in double quotes. -/
  | escapedInDouble
deriving DecidableEq, Repr

/-- A reader in the middle of a command: the finished words and the characters of the word at hand,
both in reverse order. -/
structure Reader where
  place : Place
  finished : List (List Char)
  current : List Char
deriving DecidableEq, Repr

namespace Reader

/-- A reader at the start of a command. -/
def start : Reader := ⟨.outside, [], []⟩

/-- Take a character into the word at hand and go on to a place. -/
def keep (reader : Reader) (c : Char) (place : Place) : Reader :=
  { reader with place := place, current := c :: reader.current }

/-- Go on to a place. -/
def move (reader : Reader) (place : Place) : Reader :=
  { reader with place := place }

/-- End the word at hand. -/
def endWord (reader : Reader) : Reader :=
  ⟨.outside, reader.current.reverse :: reader.finished, []⟩

/-- Read a character outside quotes. -/
def unquoted (reader : Reader) (c : Char) : Reader :=
  if c = '\'' then reader.move .inSingle
  else if c = '"' then reader.move .inDouble
  else if c = '\\' then reader.move .escaped
  else reader.keep c .inWord

/-- Read a character. -/
def step (reader : Reader) (c : Char) : Reader :=
  match reader.place with
  | .outside => if isSeparator c then reader else reader.unquoted c
  | .inWord => if isSeparator c then reader.endWord else reader.unquoted c
  | .inSingle => if c = '\'' then reader.move .inWord else reader.keep c .inSingle
  | .inDouble =>
    if c = '"' then reader.move .inWord
    else if c = '\\' then reader.move .escapedInDouble
    else reader.keep c .inDouble
  | .escaped => reader.keep c .inWord
  | .escapedInDouble =>
    if c = '"' || c = '\\' then reader.keep c .inDouble
    else (reader.keep '\\' .inDouble).keep c .inDouble

/-- The words at the end of a command. -/
def finish (reader : Reader) : Except WordFault (List (List Char)) :=
  match reader.place with
  | .outside => .ok reader.finished.reverse
  | .inWord => .ok reader.endWord.finished.reverse
  | .inSingle | .inDouble => .error .openQuote
  | .escaped | .escapedInDouble => .error .openEscape

end Reader

/-- The words of a command. -/
def splitWords (text : String) : Except WordFault (List String) :=
  (text.toList.foldl Reader.step .start).finish.map fun words => words.map String.ofList

/-- Whether a character stands for itself in every command. -/
def isPlain (c : Char) : Bool :=
  c.isAlphanum || "_@%+=:,./-".toList.contains c

/-- A word as it is written in a command. -/
def quoteWord (word : String) : String :=
  if !word.isEmpty && word.toList.all isPlain then word
  else
    let quoted := word.toList.flatMap fun c =>
      if c = '\'' then ['\'', '"', '\'', '"', '\''] else [c]
    String.ofList ('\'' :: quoted ++ ['\''])

/-- Words as one command. -/
def joinWords (words : List String) : String :=
  " ".intercalate (words.map quoteWord)

end LintClient.Command
