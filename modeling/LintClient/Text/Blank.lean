/-!
# Blanks, trimming and splitting

The blank characters of the line protocol and the ways in which text is trimmed and cut. All
functions work on lists of characters; only the character test differs between their uses.
-/

namespace LintClient.Text

/-- Whether a character has the Unicode property White_Space. -/
def isWhiteSpace (c : Char) : Bool :=
  let code := c.toNat
  (0x09 ≤ code && code ≤ 0x0D) || code == 0x20 || code == 0x85 || code == 0xA0
    || code == 0x1680 || (0x2000 ≤ code && code ≤ 0x200A) || code == 0x2028 || code == 0x2029
    || code == 0x202F || code == 0x205F || code == 0x3000

/-- Whether a character is blank: white space or one of the four information separators. -/
def isBlank (c : Char) : Bool :=
  isWhiteSpace c || (0x1C ≤ c.toNat && c.toNat ≤ 0x1F)

/-- Whether a character ends a line of the protocol. -/
def isLineEnding (c : Char) : Bool :=
  c == '\r' || c == '\n'

/-- Drop the characters of a class from the end of a text. -/
def stripEnd (member : Char -> Bool) (text : List Char) : List Char :=
  (text.reverse.dropWhile member).reverse

/-- Drop the characters of a class from both ends of a text. -/
def strip (member : Char -> Bool) (text : List Char) : List Char :=
  stripEnd member (text.dropWhile member)

/-- Drop the blanks at both ends of a text. -/
def trim (text : List Char) : List Char :=
  strip isBlank text

/-- The pieces of a text between the occurrences of a separator. There is always one piece more
than there are separators. -/
def splitAt (separator : Char) (text : List Char) : List (List Char) :=
  text.foldr
    (fun c pieces =>
      if c = separator then [] :: pieces
      else match pieces with
        | [] => [[c]]
        | piece :: others => (c :: piece) :: others)
    [[]]

/-- The maximal runs of characters outside a class. -/
def runsOutside (member : Char -> Bool) (text : List Char) : List (List Char) :=
  let (pieces, current) := text.foldr
    (fun c (state : List (List Char) × List Char) =>
      let (pieces, current) := state
      if member c then
        (if current.isEmpty then pieces else current :: pieces, [])
      else (pieces, c :: current))
    ([], [])
  if current.isEmpty then pieces else current :: pieces

/-- The words of a text: its maximal runs of characters that are not blank. -/
def words (text : List Char) : List (List Char) :=
  runsOutside isBlank text

/-- Join pieces of text with a separator between neighbours. -/
def join (separator : List Char) (pieces : List (List Char)) : List Char :=
  (pieces.intersperse separator).flatten

/-- Read a carriage return with a line feed behind it, and a lone carriage return, as a line feed: a
line feed behind a carriage return is dropped, and then every carriage return is a line feed. -/
def readNewlines {α : Type} [DecidableEq α] (carriageReturn lineFeed : α) (text : List α) :
    List α :=
  (text.zip (lineFeed :: text)).filterMap fun (item, before) =>
    if item = lineFeed ∧ before = carriageReturn then none
    else some (if item = carriageReturn then lineFeed else item)

/-- The lines of a text file: all three line endings are read as a line feed. -/
def universalNewlines (text : List Char) : List Char :=
  readNewlines '\r' '\n' text

end LintClient.Text
