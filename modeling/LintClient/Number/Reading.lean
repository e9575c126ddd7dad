import LintClient.Number.Numeral

/-!
# Reading durations

The free-hand syntax in which a number of seconds may be given: blanks around it, a sign, digits
of any script with single underscores between them, a point, an exponent, or the name of an
infinity or of the undefined number in any case.
-/

namespace LintClient.Binary64

open Text

/-- A character as the reader sees it: blanks and digits outside ASCII are read as a space and as
ASCII digits, every other character outside ASCII belongs to no number. -/
def plainChar (c : Char) : Char :=
  if c.toNat < 0x7F then c
  else if isBlank c then ' '
  else match digitValue? c with
    | some value => Char.ofNat ('0'.toNat + value)
    | none => '?'

/-- Whether a character is an ASCII space, tab, line ending, vertical tab or form feed. -/
def isAsciiSpace (c : Char) : Bool :=
  c == ' ' || (0x09 ≤ c.toNat && c.toNat ≤ 0x0D)

/-- The text without its underscores, each of which must stand between two digits. -/
def withoutUnderscores? (text : List Char) : Option (List Char) :=
  let rec go (previous : Option Char) : List Char -> Option (List Char)
    | [] => some []
    | '_' :: rest =>
      if previous.any isAsciiDigit && rest.head?.any isAsciiDigit then go (some '_') rest
      else none
    | c :: rest => (go (some c) rest).map (c :: ·)
  go none text

/-- Take a sign off the front of a text. -/
def takeSign : List Char -> Bool × List Char
  | '-' :: rest => (true, rest)
  | '+' :: rest => (false, rest)
  | rest => (false, rest)

/-- The exponent part of a numeral, which must be the whole rest of the text. -/
def exponentPart? : List Char -> Option (Option Int)
  | [] => some none
  | c :: rest =>
    if c = 'e' || c = 'E' then
      let (negative, digits) := takeSign rest
      if !digits.isEmpty && digits.all isAsciiDigit then some (some (exponentOf negative digits))
      else none
    else none

/-- The numeral that an unsigned text spells, if it spells one. -/
def numeral? (negative : Bool) (text : List Char) : Option Numeral :=
  let (whole, rest) := text.span isAsciiDigit
  let (fraction, rest) := match rest with
    | '.' :: rest =>
      let (fraction, rest) := rest.span isAsciiDigit
      (some fraction, rest)
    | rest => (none, rest)
  if whole.isEmpty && (fraction.getD []).isEmpty then none
  else (exponentPart? rest).map fun exponent => ⟨negative, whole, fraction, exponent⟩

/-- The number that a text spells, if it spells one. -/
def ofText? (text : String) : Option Binary64 := do
  let spaced := strip isAsciiSpace (text.toList.map plainChar)
  let plain ← withoutUnderscores? spaced
  let (negative, magnitude) := takeSign plain
  let name := String.ofList (magnitude.map Char.toLower)
  if name = "inf" || name = "infinity" then some (.infinite negative)
  else if name = "nan" then some .nan
  else (numeral? negative magnitude).map Numeral.toBinary64

end LintClient.Binary64
