/-!
# Shell patterns

A pattern matches whole texts: a star matches anything, a question mark any character, and brackets
one character of a set. Characters in quotes stand for themselves.
-/

namespace LintClient.Shell

/-- An element of a pattern. -/
inductive Element where
  | char (c : Char)
  | anyChar
  | anything
  /-- A character within one of the ranges, or within none. -/
  | set (excluded : Bool) (ranges : List (Char × Char))
deriving DecidableEq, Repr

/-- A pattern. -/
abbrev Pattern := List Element

/-- Whether a character lies within one of some ranges. -/
def inRanges (ranges : List (Char × Char)) (c : Char) : Bool :=
  ranges.any fun (first, last) => first ≤ c && c ≤ last

namespace Pattern

/-- The ranges that are written between brackets. -/
def ranges : List Char -> List (Char × Char)
  | first :: '-' :: last :: rest => (first, last) :: ranges rest
  | c :: rest => (c, c) :: ranges rest
  | [] => []

/-- The set that is written behind an opening bracket, and how many characters it takes. A bracket
that closes at once stands for itself. -/
def set? (text : List Char) : Option (Element × Nat) :=
  let (excluded, inner) := match text with
    | '!' :: rest => (true, rest)
    | _ => (false, text)
  let (start, more) := match inner with
    | ']' :: rest => ([']'], rest)
    | _ => ([], inner)
  match more.span (· ≠ ']') with
  | (characters, _ :: after) =>
    some (.set excluded (ranges (start ++ characters)), text.length - after.length)
  | _ => none

/-- The pattern that characters spell, of which some are quoted, read in at most `fuel` steps. -/
def within (fuel : Nat) (text : List (Char × Bool)) : Pattern :=
  match fuel, text with
  | _, [] => []
  | 0, _ => []
  | fuel + 1, (c, quoted) :: rest =>
    if quoted then .char c :: within fuel rest
    else if c == '*' then .anything :: within fuel rest
    else if c == '?' then .anyChar :: within fuel rest
    else match if c == '[' then set? (rest.map (·.1)) else none with
    | some (element, length) => element :: within fuel (rest.drop length)
    | none => .char c :: within fuel rest

/-- The pattern that characters spell. -/
def ofCharacters (text : List (Char × Bool)) : Pattern :=
  within text.length text

/-- All ends of a text, the whole text first. -/
def ends : List Char -> List (List Char)
  | [] => [[]]
  | c :: rest => (c :: rest) :: ends rest

/-- Whether a text matches. -/
def admits : Pattern -> List Char -> Bool
  | [], text => text.isEmpty
  | .anything :: pattern, text => (ends text).any (admits pattern)
  | element :: pattern, c :: rest =>
    (match element with
      | .char expected => c == expected
      | .anyChar => true
      | .set excluded ranges => inRanges ranges c != excluded
      | .anything => false) && admits pattern rest
  | _ :: _, [] => false

/-- A text without a part at its start that matches, the longest or the shortest one. -/
def trimStart (pattern : Pattern) (longest : Bool) (text : List Char) : List Char :=
  let lengths := List.range (text.length + 1)
  let lengths := if longest then lengths.reverse else lengths
  match lengths.find? fun length => pattern.admits (text.take length) with
  | some length => text.drop length
  | none => text

/-- A text without a part at its end that matches, the longest or the shortest one. -/
def trimEnd (pattern : Pattern) (longest : Bool) (text : List Char) : List Char :=
  let lengths := List.range (text.length + 1)
  let lengths := if longest then lengths else lengths.reverse
  match lengths.find? fun length => pattern.admits (text.drop length) with
  | some length => text.take length
  | none => text

end Pattern

end LintClient.Shell
