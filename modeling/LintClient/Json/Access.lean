import LintClient.Json.Display
import LintClient.Number.Numeral
import LintClient.Text.Case

/-!
# Using values of unknown kind

Operations that suit some kinds of values only, for values that were stored without a check. A
misuse tells whether the operation is undefined for the kind of value at hand or the value lacks
the part that the operation starts from.
-/

namespace LintClient.Json

open Text (Source)

/-- A failed use of a value. -/
inductive Misuse where
  /-- The operation is not defined for the kind of value. -/
  | unsupported
  /-- The kind of value does not have the asked-for part. -/
  | lacking
  /-- The object has no member of that name. -/
  | missingMember (name : String)
  /-- The integer has too many digits to be written. -/
  | tooManyDigits
  /-- The integer is greater than every floating-point number. -/
  | tooLarge
deriving DecidableEq, Repr

/-- The wording of a misuse, where it has one. -/
def Misuse.message? : Misuse -> Option String
  | .missingMember name => some (Text.quoted name)
  | .tooManyDigits => some ("Exceeds the limit (" ++ toString Numeral.digitLimit
    ++ " digits) for integer string conversion;"
    ++ " use sys.set_int_max_str_digits() to increase the limit")
  | .tooLarge => some "int too large to convert to float"
  | _ => none

/-- The member of an object. -/
def field (value : Json) (name : String) : Except Misuse Json :=
  match value.members? with
  | some members =>
    match member? name members with
    | some value => .ok value
    | none => .error (.missingMember name)
  | none => .error .unsupported

/-- The characters of a value that is a text. Halves of surrogate pairs are replaced; they are in
neither case. -/
def textOf : Json -> Except Misuse String
  | .str text => .ok text
  | .stray text => .ok (String.ofList text.source.replaced)
  | _ => .error .lacking

/-- The lower-case form of a text. -/
def lowered : Json -> Except Misuse Source
  | .str text => .ok (Source.ofString text).lower
  | .stray text => .ok text.source.lower
  | _ => .error .lacking

/-- The upper-case form of a text. -/
def uppered (value : Json) : Except Misuse String :=
  value.textOf.map Text.upper

/-- The number after a number. -/
def successor (value : Json) : Except Misuse Json :=
  match value with
  | .float number => .ok (.float (number + Binary64.ofInt 1))
  | value => match value.integer? with
    | some number => .ok (.int (number + 1))
    | none => .error .unsupported

/-- A number as a floating-point number. -/
def toBinary64 (value : Json) : Except Misuse Binary64 :=
  match value with
  | .float number => .ok number
  | value => match value.integer? with
    | some number =>
      let nearest := Binary64.ofInt number
      if nearest.isFinite then .ok nearest else .error .tooLarge
    | none => .error .unsupported

mutual

/-- Whether every integer in a value has few enough digits to be written. -/
def isWritable : Json -> Bool
  | .int value => (Nat.toDigits 10 value.natAbs).length ≤ Numeral.digitLimit
  | .list items => areWritable items
  | .object members => areMembersWritable members
  | .mixed _ values => areWritable values
  | _ => true

/-- Whether this goes for every item. -/
def areWritable : List Json -> Bool
  | [] => true
  | item :: items => isWritable item && areWritable items

/-- Whether this goes for the value of every member. -/
def areMembersWritable : List (String × Json) -> Bool
  | [] => true
  | (_, value) :: members => isWritable value && areMembersWritable members

end

/-- The text of a value on its own, if it is made of characters. There is none if an integer in it
has too many digits. -/
def plainText (value : Json) : Except Misuse String :=
  if !value.isWritable then .error .tooManyDigits
  else if value.isStray then .error .unsupported
  else .ok value.plain

/-- Whether a number is below zero. -/
def isBelowZero (value : Json) : Except Misuse Bool :=
  match value with
  | .float number => .ok (number.less .zero)
  | value => match value.integer? with
    | some number => .ok (number < 0)
    | none => .error .unsupported

/-- The elements of a value that can be gone through: the items of a list, the characters of a
text, the keys of an object. -/
def elements : Json -> Except Misuse (List Json)
  | .list items => .ok items
  | .str text => .ok (text.toList.map fun c => .str (String.ofList [c]))
  | .stray text => .ok (text.source.map fun unit => ofSource [unit])
  | .object members => .ok (members.map fun pair => .str pair.1)
  | .mixed keys _ => .ok (keys.map ofSource)
  | _ => .error .unsupported

end LintClient.Json
