import LintClient.Json.Basic
import LintClient.Number.Numeral

/-!
# Coordinates

The values that count as an integer where a record gives a line or a column. Linters write
coordinates as integers, but truth values, floating-point numbers without a fraction and numbers
inside a text are understood as well.
-/

namespace LintClient.Protocol

open Text

/-- Why a value does not count as an integer. -/
inductive IntegerFault where
  /-- The value is of a kind that never counts. -/
  | wrongKind
  /-- The text spells no integer. -/
  | unreadable
  /-- The number is infinite or undefined. -/
  | notFinite
  /-- The number has a fraction. -/
  | fractional
  /-- The number has no fraction and is outside the signed 64-bit range, or its text has too many
  digits. -/
  | tooLarge
deriving DecidableEq, Repr

/-- The wording of a fault. -/
def IntegerFault.message : IntegerFault -> String
  | .wrongKind => "Input should be a valid integer"
  | .unreadable => "Input should be a valid integer, unable to parse string as an integer"
  | .notFinite => "Input should be a finite number"
  | .fractional => "Input should be a valid integer, got a number with a fractional part"
  | .tooLarge => "Unable to parse input string as an integer, exceeded maximum size"

/-- A text cut into a minus sign, if it starts with one, and the rest. -/
def cutMinus : List Char -> Bool × List Char
  | '-' :: rest => (true, rest)
  | rest => (false, rest)

/-- The integer that a text writes plainly: an optional minus sign and digits, without leading
zeros and not too many. -/
def plainInteger? (text : List Char) : Option Int :=
  let (negative, digits) := cutMinus text
  let isPlain := digits = ['0'] || (!digits.isEmpty && digits.head? ≠ some '0')
  if isPlain && digits.all isAsciiDigit && digits.length ≤ Numeral.digitLimit then
    some (Numeral.toInt ⟨negative, digits, none, none⟩)
  else none

/-- Whether a text starts with a plain number of too many digits. -/
def startsTooLong (text : List Char) : Bool :=
  let (_, digits) := cutMinus text
  digits.head? ≠ some '0' && Numeral.digitLimit < (digits.takeWhile isAsciiDigit).length

/-- What remains of a number behind its leading zeros and the underscores among them, given the
last character of these. A minus sign may stand there; a point keeps the character before it, and so
does the end. -/
def behindZeros? (last : Char) : List Char -> Option (List Char)
  | [] => some [last]
  | c :: rest =>
    if c = '0' || c = '_' then behindZeros? c rest
    else if c = '.' then some (last :: c :: rest)
    else if isAsciiDigit c || c = '-' then some (c :: rest)
    else none

/-- A number that starts with a digit, without its leading zeros. -/
def withoutZeros? : List Char -> Option (List Char)
  | '0' :: rest => behindZeros? '0' rest
  | c :: rest => if isAsciiDigit c then some (c :: rest) else none
  | [] => none

/-- A number without its fraction, if that is zero. -/
def withoutFraction (number : List Char) : List Char :=
  let (whole, fraction) := number.span (· ≠ '.')
  if 2 ≤ fraction.length && (fraction.drop 1).all (· == '0') then whole else number

/-- Whether no two underscores stand side by side. -/
def underscoresStandAlone : List Char -> Bool
  | '_' :: '_' :: _ => false
  | _ :: rest => underscoresStandAlone rest
  | [] => true

/-- A number without the underscores inside it. They are left where they are at one of its ends or
side by side. -/
def withoutUnderscores (number : List Char) : List Char :=
  if number.head? = some '_' || number.getLast? = some '_' || !underscoresStandAlone number then
    number
  else number.filter (· ≠ '_')

/-- The plain form of a number: blanks around it, a plus sign, leading zeros, a fraction of zero and
single underscores are dropped. -/
def plainForm? (text : List Char) : Option (List Char) :=
  let unsigned (rest : List Char) : Option (List Char) :=
    (withoutZeros? rest).map fun number => withoutUnderscores (withoutFraction number)
  match strip isWhiteSpace text with
  | '-' :: rest => (unsigned rest).map ('-' :: ·)
  | '+' :: rest => unsigned rest
  | rest => unsigned rest

/-- The integer that a text spells. A plain number with too many digits is too large, whatever
stands behind it. -/
def integerOfText (text : List Char) : Except IntegerFault Int :=
  if startsTooLong text then .error .tooLarge
  else match (plainForm? text).bind plainInteger? with
    | some value => .ok value
    | none => .error .unreadable

/-- The integer that a floating-point number equals. The ends of the 64-bit range are excluded. -/
def integerOfFloat (number : Binary64) : Except IntegerFault Int :=
  if !number.isFinite then .error .notFinite
  else match number.toInt? with
    | none => .error .fractional
    | some value => if value.natAbs < powerOfTwo 63 then .ok value else .error .tooLarge

/-- The integer that a value counts as. -/
def integerOf : Json -> Except IntegerFault Int
  | .int value => .ok value
  | .bool value => .ok (if value then 1 else 0)
  | .float number => integerOfFloat number
  | .str text => integerOfText text.toList
  | _ => .error .wrongKind

end LintClient.Protocol
