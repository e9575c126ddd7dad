import LintClient.Number.Binary64
import LintClient.Text.Digit

/-!
# Numerals

The parts of a written number. Every reader of this library cuts its own syntax into these parts;
what the parts denote is said here once. A numeral without fraction and exponent denotes an
integer of any size, any other one the nearest binary64 number.
-/

namespace LintClient

/-- A written number: digits before and after the point and an exponent of ten, if written. -/
structure Numeral where
  negative : Bool
  whole : List Char
  fraction : Option (List Char)
  exponent : Option Int
deriving DecidableEq, Repr

namespace Numeral

/-- The number of digits that a whole number may be written with. -/
def digitLimit : Nat := 4300

/-- Whether the numeral is written without fraction and exponent. -/
def isInteger (numeral : Numeral) : Bool :=
  numeral.fraction.isNone && numeral.exponent.isNone

/-- The integer that the digits before the point denote. -/
def toInt (numeral : Numeral) : Int :=
  let magnitude : Int := Text.numberOfDigits numeral.whole
  if numeral.negative then -magnitude else magnitude

/-- The binary64 number nearest to what the numeral denotes. -/
def toBinary64 (numeral : Numeral) : Binary64 :=
  let fraction := numeral.fraction.getD []
  Binary64.ofDecimal numeral.negative (Text.numberOfDigits (numeral.whole ++ fraction))
    (numeral.exponent.getD 0 - fraction.length)

end Numeral

/-- The integer that an exponent's sign and digits denote. -/
def exponentOf (negative : Bool) (digits : List Char) : Int :=
  let magnitude : Int := Text.numberOfDigits digits
  if negative then -magnitude else magnitude

end LintClient
