import LintClient.Json.Basic
import LintClient.Number.Shortest
import LintClient.Text.Quoted

/-!
# Writing JSON

The written form of a value, on one line or with one item or member to a line. Characters outside
ASCII are either escaped as sixteen-bit units or written as they are. Halves of surrogate pairs are
always escaped.
-/

namespace LintClient.Json

/-- The choices of a written form. -/
structure Style where
  /-- Escape every character outside printable ASCII. -/
  asciiOnly : Bool
  /-- The number of spaces per level, or everything on one line. -/
  indent : Option Nat
deriving DecidableEq, Repr

/-- One line, ASCII only. -/
def Style.line : Style := ⟨true, none⟩

/-- The style of the command line's document: two spaces per level, ASCII only. -/
def Style.indented : Style := ⟨true, some 2⟩

/-- The escape of a sixteen-bit unit. -/
def unitEscape (unit : Nat) : List Char :=
  '\\' :: 'u' :: Text.hexDigits 4 unit

/-- The escapes of the units of a character. -/
def charEscape (c : Char) : List Char :=
  if c.toNat < 0x10000 then unitEscape c.toNat
  else
    let offset := c.toNat - 0x10000
    unitEscape (0xD800 + offset / 0x400) ++ unitEscape (0xDC00 + offset % 0x400)

/-- A character inside a written string. -/
def writtenChar (asciiOnly : Bool) (c : Char) : List Char :=
  if c = '"' then ['\\', '"']
  else if c = '\\' then ['\\', '\\']
  else if c = '\n' then ['\\', 'n']
  else if c = '\r' then ['\\', 'r']
  else if c = '\t' then ['\\', 't']
  else if c = '\x08' then ['\\', 'b']
  else if c = '\x0c' then ['\\', 'f']
  else if c.toNat < 0x20 || (asciiOnly && 0x7F ≤ c.toNat) then charEscape c
  else [c]

/-- A written string. -/
def writtenString (asciiOnly : Bool) (text : String) : List Char :=
  '"' :: text.toList.flatMap (writtenChar asciiOnly) ++ ['"']

/-- A written string with halves of surrogate pairs. -/
def writtenSource (asciiOnly : Bool) (source : Text.Source) : List Char :=
  let inside := source.flatMap fun
    | .char c => writtenChar asciiOnly c
    | .stray surrogate => unitEscape surrogate.code
  '"' :: inside ++ ['"']

/-- A written number that is not an integer. -/
def writtenFloat : Binary64 -> List Char
  | .nan => "NaN".toList
  | .infinite negative => (if negative then "-Infinity" else "Infinity").toList
  | number => number.text.toList

/-- The break before an item at the given level. -/
def lineBreak (style : Style) (level : Nat) : List Char :=
  match style.indent with
  | none => []
  | some width => '\n' :: List.replicate (width * level) ' '

/-- What stands between two items at the given level. -/
def separator (style : Style) (level : Nat) : List Char :=
  match style.indent with
  | none => [',', ' ']
  | some _ => ',' :: lineBreak style level

mutual

/-- The written form of a value at the given level. -/
def written (style : Style) (level : Nat) : Json -> List Char
  | .null => "null".toList
  | .bool value => (if value then "true" else "false").toList
  | .int value => (toString value).toList
  | .float value => writtenFloat value
  | .str value => writtenString style.asciiOnly value
  | .stray text => writtenSource style.asciiOnly text.source
  | .list [] => ['[', ']']
  | .list (item :: items) =>
    '[' :: lineBreak style (level + 1) ++ written style (level + 1) item
      ++ writtenItems style (level + 1) items ++ lineBreak style level ++ [']']
  | .object [] => ['\x7b', '\x7d']
  | .object ((key, value) :: members) =>
    '\x7b' :: lineBreak style (level + 1) ++ writtenString style.asciiOnly key ++ [':', ' ']
      ++ written style (level + 1) value ++ writtenMembers style (level + 1) members
      ++ lineBreak style level ++ ['\x7d']
  | .mixed keys values =>
    let members :=
      List.zipWith (fun key value => writtenSource style.asciiOnly key ++ [':', ' '] ++ value)
      keys (writtenEach style (level + 1) values)
    '\x7b' :: lineBreak style (level + 1) ++ List.intercalate (separator style (level + 1)) members
      ++ lineBreak style level ++ ['\x7d']

/-- The written forms of values. -/
def writtenEach (style : Style) (level : Nat) : List Json -> List (List Char)
  | [] => []
  | item :: items => written style level item :: writtenEach style level items

/-- The written forms of the items after the first, each behind a separator. -/
def writtenItems (style : Style) (level : Nat) : List Json -> List Char
  | [] => []
  | item :: items =>
    separator style level ++ written style level item ++ writtenItems style level items

/-- The written forms of the members after the first, each behind a separator. -/
def writtenMembers (style : Style) (level : Nat) : List (String × Json) -> List Char
  | [] => []
  | (key, value) :: members =>
    separator style level ++ writtenString style.asciiOnly key ++ [':', ' ']
      ++ written style level value ++ writtenMembers style level members

end

/-- The text of a value. -/
def print (style : Style) (value : Json) : String :=
  String.ofList (written style 0 value)

end LintClient.Json
