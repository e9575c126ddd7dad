import LintClient.Json.Access

/-!
# The session header

A log file starts with a box that tells about the session: a title and one row for each item of
metadata. Items without a value are left out; the keys and the values each form a column, and the
box is as wide as its widest row asks for, but not narrower than sixty characters. A box that holds
half of a surrogate pair cannot be written.
-/

namespace LintClient.Log

open Text (Source)

/-- The facts about a session, in order. A null value is no value. -/
abbrev Metadata := List (String × Json)

/-- The items of metadata that have a value. -/
def Metadata.present (metadata : Metadata) : Metadata :=
  metadata.filter fun item => !item.2.isNull

/-- A text with blanks behind it up to a width. -/
def padEnd (width : Nat) (text : List Char) : List Char :=
  text ++ List.replicate (width - text.length) ' '

/-- A text with blanks around it up to a width; an odd blank goes to the end. -/
def padAround (width : Nat) (text : List Char) : List Char :=
  padEnd width (List.replicate ((width - text.length) / 2) ' ' ++ text)

/-- The greatest length of some texts. -/
def widest (texts : List (List Char)) : Nat :=
  (texts.map List.length).foldl max 0

/-- The content of a row, given the width of the longest key. -/
def contentRow (keyWidth : Nat) (item : String × String) : List Char :=
  [' ', ' '] ++ padEnd (keyWidth + 2) (item.1.toList ++ [':']) ++ ' ' :: item.2.toList

/-- The contents of all rows. -/
def contentRows (items : List (String × String)) : List (List Char) :=
  items.map (contentRow (widest (items.map fun item => item.1.toList)))

/-- The inner width of a box around rows. -/
def boxWidth (rows : List (List Char)) : Nat :=
  max (widest rows + 2) 60

/-- A horizontal line of a box with the given corners. -/
def ruler (width : Nat) (left right : Char) : List Char :=
  left :: List.replicate width '─' ++ [right]

/-- A row of a box. -/
def boxRow (content : List Char) : List Char :=
  '│' :: content ++ ['│']

/-- The title of the box. -/
def title : List Char := " SQFLINT SESSION ".toList

/-- The rows of a box around contents. -/
def boxRows (rows : List (List Char)) : List (List Char) :=
  let width := boxWidth rows
  [ruler width '┌' '┐', boxRow (padAround width title), ruler width '├' '┤']
    ++ rows.map (fun row => boxRow (padEnd width row))
    ++ [ruler width '└' '┘']

/-- Why there is no header. -/
inductive HeaderFault where
  /-- No item has a value. -/
  | empty
  /-- A value has no text. -/
  | misuse (cause : Json.Misuse)
  /-- There are halves of surrogate pairs in the header. -/
  | unwritable (run : Source.StrayRun)
deriving DecidableEq, Repr

/-- The wording of a fault, where it has one. -/
def HeaderFault.message? : HeaderFault -> Option String
  | .empty => some "max() arg is an empty sequence"
  | .misuse cause => cause.message?
  | .unwritable run => some run.message

/-- The text of a value in its row. A text with halves of surrogate pairs takes as much room as one
with other characters in their places. -/
def rowText : Json -> String
  | .stray text => String.ofList text.source.replaced
  | value => value.plain

/-- An item with the text of its value. -/
def itemText (item : String × Json) : Except Json.Misuse (String × String) :=
  if item.2.isWritable then .ok (item.1, rowText item.2) else .error .tooManyDigits

/-- What stands in front of the value of an item in a header: the three rows at the top, those of
the items before, and the key. Every row ends with a newline. -/
def lengthBefore (items : List (String × String)) (index : Nat) : Nat :=
  let width := boxWidth (contentRows items)
  (3 + index) * (width + 3) + widest (items.map fun item => item.1.toList) + 6

/-- The first halves of surrogate pairs in the header for items whose texts are given. -/
def strayRun? (items : Metadata) (texts : List (String × String)) : Option Source.StrayRun :=
  items.zipIdx.findSome? fun (item, index) =>
    match item.2 with
    | .stray text => text.source.strayRun?.map fun run =>
      { run with position := lengthBefore texts index + run.position }
    | _ => none

/-- The header for metadata: the rows of its box, each ended by a newline. Without any item there is
no header. -/
def header (metadata : Metadata) : Except HeaderFault String :=
  match metadata.present with
  | [] => .error .empty
  | items => do
    let texts ← (items.mapM itemText).mapError .misuse
    match strayRun? items texts with
    | some run => throw (.unwritable run)
    | none => pure (String.ofList ((boxRows (contentRows texts)).flatMap (· ++ ['\n'])))

end LintClient.Log
