import LintClient.Number.Binary64
import LintClient.Text.Source

/-!
# JSON values

The values of the line protocol and of configuration files. Integers are unbounded and distinct from
floating-point numbers; the members of an object keep the order in which their keys first occurred,
and each key occurs once. A configuration file may hold texts with halves of surrogate pairs, which
are kept apart from texts that are made of characters.
-/

namespace LintClient

/-- A JSON value. -/
inductive Json where
  | null
  | bool (value : Bool)
  | int (value : Int)
  | float (value : Binary64)
  | str (value : String)
  | stray (text : Text.StrayText)
  | list (items : List Json)
  | object (members : List (String × Json))
  /-- An object in which a key has halves of surrogate pairs, as its keys with the value of each. -/
  | mixed (keys : List Text.Source) (values : List Json)
deriving Inhabited, Repr

namespace Json

open Text (Source)

/-- A text as a value. -/
def ofSource (source : Source) : Json :=
  match characters : source.characters? with
  | some text => .str (String.ofList text)
  | none => .stray ⟨source, characters⟩

/-- Whether a value is null. -/
def isNull : Json -> Bool
  | .null => true
  | _ => false

/-- Whether a value is a text with halves of surrogate pairs. -/
def isStray : Json -> Bool
  | .stray _ => true
  | _ => false

/-- Set the value of a key: in place if the key is present, at the end otherwise. -/
def insertMember {κ : Type} [DecidableEq κ] (members : List (κ × Json)) (key : κ) (value : Json) :
    List (κ × Json) :=
  match members with
  | [] => [(key, value)]
  | (name, old) :: rest =>
    if name = key then (key, value) :: rest else (name, old) :: insertMember rest key value

/-- The members of an object written as a sequence of pairs: the last value of a repeated key
counts, at the place of the first. -/
def membersOf {κ : Type} [DecidableEq κ] (pairs : List (κ × Json)) : List (κ × Json) :=
  pairs.foldl (fun members pair => insertMember members pair.1 pair.2) []

/-- A member with a key that is made of characters. -/
def plainMember? (pair : Source × Json) : Option (String × Json) :=
  pair.1.characters?.map fun key => (String.ofList key, pair.2)

/-- The object written as a sequence of pairs. -/
def objectOf (pairs : List (Source × Json)) : Json :=
  match pairs.mapM plainMember? with
  | some pairs => .object (membersOf pairs)
  | none =>
    let members := membersOf pairs
    .mixed (members.map Prod.fst) (members.map Prod.snd)

/-- The members of an object under keys that are made of characters. -/
def members? : Json -> Option (List (String × Json))
  | .object members => some members
  | .mixed keys values => some ((keys.zip values).filterMap plainMember?)
  | _ => none

/-- The value of a key among the members of an object. -/
def member? (key : String) (members : List (String × Json)) : Option Json :=
  members.lookup key

/-- Whether a value counts as present: not null, false, zero or empty. -/
def isPresent : Json -> Bool
  | .null => false
  | .bool value => value
  | .int value => value != 0
  | .float value => !value.equal .zero
  | .str value => !value.isEmpty
  | .stray _ => true
  | .list items => !items.isEmpty
  | .object members => !members.isEmpty
  | .mixed keys _ => !keys.isEmpty

/-- A value as a number: the truth values count as one and zero. -/
def integer? : Json -> Option Int
  | .bool value => some (if value then 1 else 0)
  | .int value => some value
  | _ => none

/-- Whether an integer and a floating-point number are equal as numbers. -/
def intEqualsFloat (left : Int) (right : Binary64) : Bool :=
  right.units? == some (Binary64.unitsOfInt left)

/-- The values of some keys, if all of them have one. -/
def valuesAt? (keys : List Source) (members : List (Source × Json)) : Option (List Json) :=
  keys.mapM fun key => members.lookup key

mutual

/-- Whether two values are equal: numbers by what they denote whatever their kind, objects
whatever the order of their members. -/
def equal : Json -> Json -> Bool
  | .null, .null => true
  | .str left, .str right => left == right
  | .stray left, .stray right => left == right
  | .list left, .list right => equalLists left right
  | .object left, .object right =>
    left.length == right.length && equalMembers left right
  | .mixed keys left, .mixed names right =>
    keys.length == names.length && match valuesAt? keys (names.zip right) with
      | some right => equalLists left right
      | none => false
  | .float left, .float right => left.equal right
  | .float left, right => match right.integer? with
    | some number => intEqualsFloat number left
    | none => false
  | left, .float right => match left.integer? with
    | some number => intEqualsFloat number right
    | none => false
  | left, right => match left.integer?, right.integer? with
    | some left, some right => left == right
    | _, _ => false

/-- Whether two lists hold equal values at equal places. -/
def equalLists : List Json -> List Json -> Bool
  | [], [] => true
  | left :: lefts, right :: rights => equal left right && equalLists lefts rights
  | _, _ => false

/-- Whether every member on the left has an equal value under the same key on the right. -/
def equalMembers : List (String × Json) -> List (String × Json) -> Bool
  | [], _ => true
  | (key, left) :: lefts, rights =>
    (match rights.lookup key with
      | some right => equal left right
      | none => false)
    && equalMembers lefts rights

end

end Json

end LintClient
