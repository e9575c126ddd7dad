import LintClient.Number.Binary64

/-!
# Shortest decimal text

A finite number is written with the fewest digits that read back as the same number, and of those
with the digits nearest to it. Numbers from `10^-4` up to `10^16` are written positionally with at
least one digit after the point, all others with an exponent of at least two digits.
-/

namespace LintClient.Binary64

/-- A positive decimal number `0.d₁d₂… * 10^point`. -/
structure Decimal where
  digits : Nat
  point : Int
deriving DecidableEq, Repr

/-- The position of the decimal point of a positive ratio: the least `p` with the ratio below
`10^p`. -/
def pointOfRatio (numerator denominator : Nat) : Int :=
  if denominator ≤ numerator then decimalLength (numerator / denominator)
  else
    let quotient := denominator / numerator
    let length := decimalLength quotient
    if quotient = powerOfTen (length - 1) && denominator % numerator = 0 then 2 - (length : Int)
    else 1 - (length : Int)

/-- The two neighbours of a ratio among the multiples of `10^exponent`, the nearer one first. At
an exact tie the even neighbour is first. -/
def neighbours (numerator denominator : Nat) (exponent : Int) : List Nat :=
  let scaledNumerator :=
    if 0 ≤ exponent then numerator else numerator * powerOfTen (-exponent).toNat
  let scaledDenominator :=
    if 0 ≤ exponent then denominator * powerOfTen exponent.toNat else denominator
  let floor := scaledNumerator / scaledDenominator
  let nearest := roundDiv scaledNumerator scaledDenominator
  if nearest = floor then [floor, floor + 1] else [floor + 1, floor]

/-- The decimal with the given number of digits that reads back as `number`, if there is one. -/
def decimalOfLength? (number : Binary64) (numerator denominator : Nat) (point : Int)
    (length : Nat) : Option Decimal :=
  let exponent := point - length
  ((neighbours numerator denominator exponent).find? fun digits =>
      decide (ofDecimal false digits exponent = number)).map
    fun digits => ⟨digits, exponent + decimalLength digits⟩

/-- The shortest decimal that reads back as a positive finite number. The exact decimal expansion
stands in where no decimal of at most seventeen digits does. -/
def shortest (significand : Nat) (exponent : Int) : Decimal :=
  let numerator := if 0 ≤ exponent then significand * powerOfTwo exponent.toNat else significand
  let denominator := if 0 ≤ exponent then 1 else powerOfTwo (-exponent).toNat
  let point := pointOfRatio numerator denominator
  let number := ofParts false significand exponent
  match (List.range' 1 17).findSome? (decimalOfLength? number numerator denominator point) with
  | some decimal => decimal
  | none =>
    let digits := numerator * powerOfTen (-exponent).toNat / denominator
    ⟨digits, decimalLength digits + min exponent 0⟩

/-- Decimal digits without the zeros at their end. -/
def significantDigits (digits : Nat) : List Char :=
  ((Nat.toDigits 10 digits).reverse.dropWhile (· == '0')).reverse

/-- An exponent with its sign and at least two digits. -/
def exponentText (exponent : Int) : List Char :=
  let digits := Nat.toDigits 10 exponent.natAbs
  (if exponent < 0 then '-' else '+') :: List.replicate (2 - digits.length) '0' ++ digits

/-- The text of a positive decimal. -/
def Decimal.text (decimal : Decimal) : List Char :=
  let digits := significantDigits decimal.digits
  if decimal.point < -3 || 16 < decimal.point then
    let fraction := digits.drop 1
    digits.take 1 ++ (if fraction.isEmpty then [] else '.' :: fraction)
      ++ 'e' :: exponentText (decimal.point - 1)
  else if decimal.point ≤ 0 then
    '0' :: '.' :: List.replicate (-decimal.point).toNat '0' ++ digits
  else
    let whole := decimal.point.toNat
    if digits.length ≤ whole then
      digits ++ List.replicate (whole - digits.length) '0' ++ ['.', '0']
    else digits.take whole ++ '.' :: digits.drop whole

/-- The text of a number. -/
def text : Binary64 -> String
  | .nan => "nan"
  | .infinite negative => if negative then "-inf" else "inf"
  | .finite negative significand exponent _ =>
    let magnitude :=
      if significand = 0 then ['0', '.', '0'] else (shortest significand exponent).text
    String.ofList (if negative then '-' :: magnitude else magnitude)

end LintClient.Binary64
