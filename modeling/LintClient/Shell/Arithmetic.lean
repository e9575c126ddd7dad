/-!
# Shell arithmetic

The expressions between double parentheses: integers and parameters joined by operators, which bind
as in mathematics. A comparison is one if it holds and zero if not. An expression that is not well
formed, or that divides by zero, has no value.
-/

namespace LintClient.Shell

/-- A part of an expression. -/
inductive Term where
  | number (value : Int)
  | name (name : String)
  | mark (text : String)
deriving DecidableEq, Repr

namespace Arithmetic

/-- The marks of two characters. -/
def longMarks : List String := ["<=", ">=", "==", "!=", "&&", "||", "<<", ">>"]

/-- The terms of an expression, read in at most `fuel` steps. -/
def termsWithin (fuel : Nat) (text : List Char) : Option (List Term) :=
  match fuel, text with
  | _, [] => some []
  | 0, _ => none
  | fuel + 1, c :: rest =>
    if c == ' ' || c == '\t' || c == '\n' then termsWithin fuel rest
    else if c.isDigit then
      let (digits, after) := text.span Char.isDigit
      (termsWithin fuel after).map
        (.number ((String.ofList digits).toNat?.getD 0 : Nat) :: ·)
    else if c.isAlpha || c == '_' then
      let (name, after) := text.span fun c => c.isAlphanum || c == '_'
      (termsWithin fuel after).map (.name (String.ofList name) :: ·)
    else
      let long := String.ofList (text.take 2)
      if longMarks.contains long then (termsWithin fuel (text.drop 2)).map (.mark long :: ·)
      else if "+-*/%()<>!~&|^".toList.contains c then
        (termsWithin fuel rest).map (.mark (String.ofList [c]) :: ·)
      else none

/-- The terms of an expression. -/
def terms? (text : List Char) : Option (List Term) :=
  termsWithin text.length text

/-- The number that a condition counts as. -/
def ofBool (holds : Bool) : Int :=
  if holds then 1 else 0

/-- How strongly an operator between two operands binds. -/
def strength? (mark : String) : Option Nat :=
  List.lookup mark [("||", 1), ("&&", 2), ("==", 3), ("!=", 3), ("<", 4), (">", 4), ("<=", 4),
    (">=", 4), ("+", 5), ("-", 5), ("*", 6), ("/", 6), ("%", 6)]

/-- The value of an operator between two operands. Division goes toward zero. -/
def combine? (mark : String) (left right : Int) : Option Int :=
  if mark = "||" then some (ofBool (left ≠ 0 || right ≠ 0))
  else if mark = "&&" then some (ofBool (left ≠ 0 && right ≠ 0))
  else if mark = "==" then some (ofBool (left = right))
  else if mark = "!=" then some (ofBool (left ≠ right))
  else if mark = "<" then some (ofBool (left < right))
  else if mark = ">" then some (ofBool (right < left))
  else if mark = "<=" then some (ofBool (left ≤ right))
  else if mark = ">=" then some (ofBool (right ≤ left))
  else if mark = "+" then some (left + right)
  else if mark = "-" then some (left - right)
  else if mark = "*" then some (left * right)
  else if right = 0 then none
  else if mark = "/" then some (left.tdiv right)
  else if mark = "%" then some (left.tmod right)
  else none

mutual

/-- The value of an operand at the start of some terms, and what is left. -/
def operand? (value : String -> Int) (fuel : Nat) (terms : List Term) :
    Option (Int × List Term) :=
  match fuel, terms with
  | fuel + 1, .mark "(" :: rest => do
    let (first, rest) ← operand? value fuel rest
    match ← joined? value fuel 1 first rest with
    | (result, .mark ")" :: rest) => pure (result, rest)
    | _ => none
  | fuel + 1, .mark "-" :: rest => do
    let (operand, rest) ← operand? value fuel rest
    pure (-operand, rest)
  | fuel + 1, .mark "+" :: rest => operand? value fuel rest
  | fuel + 1, .mark "!" :: rest => do
    let (operand, rest) ← operand? value fuel rest
    pure (ofBool (operand = 0), rest)
  | _, .number number :: rest => some (number, rest)
  | _, .name name :: rest => some (value name, rest)
  | _, _ => none

/-- The value of a left operand joined to what follows by operators of at least some strength, and
what is left. -/
def joined? (value : String -> Int) (fuel least : Nat) (left : Int) (terms : List Term) :
    Option (Int × List Term) :=
  match fuel, terms with
  | fuel + 1, .mark mark :: rest =>
    match strength? mark with
    | none => some (left, terms)
    | some strength =>
      if strength < least then some (left, terms)
      else do
        let (right, rest) ← operand? value fuel rest
        let (right, rest) ← joined? value fuel (strength + 1) right rest
        let result ← combine? mark left right
        joined? value fuel least result rest
  | _, terms => some (left, terms)

end

/-- The value of an expression, where `value` gives the values of parameters. -/
def value? (value : String -> Int) (text : List Char) : Option Int := do
  let terms ← terms? text
  if terms.isEmpty then pure 0
  else
    let fuel := 2 * terms.length + 2
    let (first, rest) ← operand? value fuel terms
    match ← joined? value fuel 1 first rest with
    | (result, []) => pure result
    | _ => none

end Arithmetic

end LintClient.Shell
