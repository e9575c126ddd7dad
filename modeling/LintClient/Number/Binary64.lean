/-!
# Binary64 numbers

The floating-point numbers of the protocol, of configuration files and of the clock, as exact
data: every finite number is a sign and a canonical multiple of a power of two. Rounding is to
nearest with ties to even and is defined once, on ratios of natural numbers.
-/

namespace LintClient

/-- The natural number `2^n`. -/
def powerOfTwo (n : Nat) : Nat :=
  Nat.pow 2 n

/-- The natural number `10^n`. -/
def powerOfTen (n : Nat) : Nat :=
  Nat.pow 10 n

/-- A significand and exponent in the one form that each finite magnitude has: 53 bits where the
exponent allows it, fewer at the least exponent only. -/
def IsCanonical (significand : Nat) (exponent : Int) : Prop :=
  significand < powerOfTwo 53 ∧ -1074 ≤ exponent ∧ exponent ≤ 971 ∧
    (powerOfTwo 52 ≤ significand ∨ exponent = -1074)

instance (significand : Nat) (exponent : Int) : Decidable (IsCanonical significand exponent) :=
  inferInstanceAs (Decidable (_ ∧ _))

/-- A binary64 number. The finite number with sign `s`, significand `m` and exponent `e` is
`(-1)^s * m * 2^e`. -/
inductive Binary64 where
  | finite (negative : Bool) (significand : Nat) (exponent : Int)
      (canonical : IsCanonical significand exponent)
  | infinite (negative : Bool)
  | nan
deriving DecidableEq, Repr

namespace Binary64

/-- Positive zero. -/
def zero : Binary64 := .finite false 0 (-1074) (by decide)

instance : OfNat Binary64 0 := ⟨zero⟩

/-- The number with the given parts; a magnitude too large to be finite is infinite. -/
def ofParts (negative : Bool) (significand : Nat) (exponent : Int) : Binary64 :=
  if canonical : IsCanonical significand exponent then
    .finite negative significand exponent canonical
  else .infinite negative

/-- The quotient rounded to nearest, with ties to even. -/
def roundDiv (numerator denominator : Nat) : Nat :=
  let quotient := numerator / denominator
  let rest := numerator % denominator
  if 2 * rest < denominator then quotient
  else if denominator < 2 * rest then quotient + 1
  else quotient + quotient % 2

/-- The exponent at which a positive ratio has 53 significant bits, or the least exponent. -/
def exponentOfRatio (numerator denominator : Nat) : Int :=
  let estimate : Int := (numerator.log2 : Int) - denominator.log2 - 52
  let fits :=
    if 0 ≤ estimate + 52 then denominator * powerOfTwo (estimate + 52).toNat ≤ numerator
    else denominator ≤ numerator * powerOfTwo (-(estimate + 52)).toNat
  max (-1074) (if fits then estimate else estimate - 1)

/-- The number nearest to a ratio, with ties to even. -/
def ofRatio (negative : Bool) (numerator denominator : Nat) : Binary64 :=
  if numerator = 0 then ofParts negative 0 (-1074)
  else
    let exponent := exponentOfRatio numerator denominator
    let significand :=
      if 0 ≤ exponent then roundDiv numerator (denominator * powerOfTwo exponent.toNat)
      else roundDiv (numerator * powerOfTwo (-exponent).toNat) denominator
    if significand = powerOfTwo 53 then ofParts negative (powerOfTwo 52) (exponent + 1)
    else ofParts negative significand exponent

/-- The number nearest to an integer. -/
def ofInt (number : Int) : Binary64 :=
  ofRatio (number < 0) number.natAbs 1

/-- The number of decimal digits of a natural number, zero having one. -/
def decimalLength (number : Nat) : Nat :=
  (Nat.toDigits 10 number).length

/-- The number nearest to `digits * 10^exponent`. Magnitudes far outside the range of finite
numbers are settled by their order of magnitude alone. -/
def ofDecimal (negative : Bool) (digits : Nat) (exponent : Int) : Binary64 :=
  let order : Int := decimalLength digits + exponent
  if digits = 0 || order < -330 then ofParts negative 0 (-1074)
  else if 310 < order then .infinite negative
  else if 0 ≤ exponent then ofRatio negative (digits * powerOfTen exponent.toNat) 1
  else ofRatio negative digits (powerOfTen (-exponent).toNat)

/-- The exact value of a finite number, counted in units of `2^-1074`. -/
def units? : Binary64 -> Option Int
  | .finite negative significand exponent _ =>
    let magnitude := significand * powerOfTwo (exponent + 1074).toNat
    some (if negative then -Int.ofNat magnitude else Int.ofNat magnitude)
  | _ => none

/-- The exact value of an integer in units of `2^-1074`. -/
def unitsOfInt (number : Int) : Int :=
  number * Int.ofNat (powerOfTwo 1074)

/-- The number nearest to a count of units. -/
def ofUnits (units : Int) : Binary64 :=
  ofRatio (units < 0) units.natAbs (powerOfTwo 1074)

/-- Whether a number is neither infinite nor undefined. -/
def isFinite (number : Binary64) : Bool :=
  number.units?.isSome

/-- The rounded sum. Zeros add to a negative zero only when both are negative. -/
def add (left right : Binary64) : Binary64 :=
  match left, right with
  | .nan, _ | _, .nan => .nan
  | .infinite a, .infinite b => if a = b then .infinite a else .nan
  | .infinite a, _ => .infinite a
  | _, .infinite b => .infinite b
  | .finite a _ _ _, .finite b _ _ _ =>
    let sum := left.units?.getD 0 + right.units?.getD 0
    if sum = 0 then ofParts (a && b) 0 (-1074) else ofUnits sum

instance : Add Binary64 := ⟨add⟩

/-- Whether one number is less than another; an undefined number is in no order. -/
def less (left right : Binary64) : Bool :=
  match left, right with
  | .nan, _ | _, .nan => false
  | .infinite a, .infinite b => a && !b
  | .infinite a, _ => a
  | _, .infinite b => !b
  | _, _ => left.units?.getD 0 < right.units?.getD 0

/-- Whether two numbers are equal as numbers: the zeros are, undefined numbers are not. -/
def equal (left right : Binary64) : Bool :=
  match left, right with
  | .nan, _ | _, .nan => false
  | .infinite a, .infinite b => a == b
  | .infinite _, _ | _, .infinite _ => false
  | _, _ => left.units? == right.units?

/-- Whether a number is less than another or equal to it. -/
def atMost (left right : Binary64) : Bool :=
  left.less right || left.equal right

instance : LE Binary64 := ⟨fun left right => left.atMost right = true⟩

instance : LT Binary64 := ⟨fun left right => left.less right = true⟩

instance (left right : Binary64) : Decidable (left ≤ right) :=
  inferInstanceAs (Decidable (left.atMost right = true))

instance (left right : Binary64) : Decidable (left < right) :=
  inferInstanceAs (Decidable (left.less right = true))

/-- The integer that a finite number equals, if there is one. -/
def toInt? (number : Binary64) : Option Int :=
  match number.units? with
  | none => none
  | some units =>
    let one := Int.ofNat (powerOfTwo 1074)
    if units % one = 0 then some (units / one) else none

end Binary64

end LintClient
