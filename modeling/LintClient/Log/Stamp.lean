/-!
# Moments in logs

The moment at which something is logged, and its written forms. A pattern names the parts of a
moment by runs of letters; every other character stands for itself.
-/

namespace LintClient.Log

/-- A moment of a calendar day. -/
structure Stamp where
  year : Nat
  month : Nat
  day : Nat
  hour : Nat
  minute : Nat
  second : Nat
  microsecond : Nat
deriving DecidableEq, Repr

/-- The decimal digits of a number, with zeros in front up to a width. -/
def paddedDigits (width number : Nat) : List Char :=
  let digits := Nat.toDigits 10 number
  List.replicate (width - digits.length) '0' ++ digits

namespace Stamp

/-- The part of a moment that a run of a letter names. -/
def part? (stamp : Stamp) (letter : Char) (count : Nat) : Option (List Char) :=
  match letter, count with
  | 'Y', 4 => some (paddedDigits 4 stamp.year)
  | 'Y', 2 => some (paddedDigits 2 (stamp.year % 100))
  | 'M', 2 => some (paddedDigits 2 stamp.month)
  | 'M', 1 => some (paddedDigits 1 stamp.month)
  | 'D', 2 => some (paddedDigits 2 stamp.day)
  | 'D', 1 => some (paddedDigits 1 stamp.day)
  | 'H', 2 => some (paddedDigits 2 stamp.hour)
  | 'H', 1 => some (paddedDigits 1 stamp.hour)
  | 'm', 2 => some (paddedDigits 2 stamp.minute)
  | 'm', 1 => some (paddedDigits 1 stamp.minute)
  | 's', 2 => some (paddedDigits 2 stamp.second)
  | 's', 1 => some (paddedDigits 1 stamp.second)
  | 'S', count =>
    if count ≤ 6 then some ((paddedDigits 6 stamp.microsecond).take count) else none
  | _, _ => none

/-- The form of a moment that a pattern asks for. -/
def written (stamp : Stamp) (pattern : String) : String :=
  String.ofList ((pattern.toList.splitBy (· == ·)).flatMap fun run =>
    match run with
    | [] => []
    | letter :: _ => (stamp.part? letter run.length).getD run)

/-- The number of a part that has a name. -/
def number? (stamp : Stamp) (name : String) : Option Nat :=
  List.lookup name [("year", stamp.year), ("month", stamp.month), ("day", stamp.day),
    ("hour", stamp.hour), ("minute", stamp.minute), ("second", stamp.second),
    ("microsecond", stamp.microsecond)]

/-- The moment some seconds after the start of 1970. Days are counted from the first of March of the
year 0, so that a leap day is the last day of its year. -/
def ofSeconds (seconds microsecond : Nat) : Stamp :=
  let days := seconds / 86400 + 719468
  let dayOfCycle := days % 146097
  let yearOfCycle :=
    (dayOfCycle - dayOfCycle / 1460 + dayOfCycle / 36524 - dayOfCycle / 146096) / 365
  let dayOfYear := dayOfCycle - (365 * yearOfCycle + yearOfCycle / 4 - yearOfCycle / 100)
  let fifth := (5 * dayOfYear + 2) / 153
  let month := if fifth < 10 then fifth + 3 else fifth - 9
  { year := yearOfCycle + days / 146097 * 400 + if month ≤ 2 then 1 else 0
    month
    day := dayOfYear - (153 * fifth + 2) / 5 + 1
    hour := seconds % 86400 / 3600
    minute := seconds % 3600 / 60
    second := seconds % 60
    microsecond }

end Stamp

end LintClient.Log
