import LintClient.Text.CaseTable

/-!
# Case conversion

Full Unicode case conversion. Lower-casing depends on context for one letter: a sigma that ends a
word, that is, one with a cased letter before it and none after it, takes its final form.
Case-ignorable characters in between are skipped on both sides.
-/

namespace LintClient.Text

/-- The shift that a run applies to a code point, if the run covers it. -/
def CaseRun.shift? (run : CaseRun) (code : Nat) : Option Int :=
  if run.first ≤ code && code ≤ run.last && (code - run.first) % run.stride == 0 then
    some run.shift
  else none

/-- The image of a character under a table of runs. -/
def mapByRuns (runs : List CaseRun) (c : Char) : Char :=
  match runs.findSome? (·.shift? c.toNat) with
  | some shift => Char.ofNat (c.toNat + shift).toNat
  | none => c

/-- The lower-case form of a character outside any context. -/
def lowerChar (c : Char) : List Char :=
  if c.toNat < 0x80 then [c.toLower]
  else if c = '\u0130' then ['i', '\u0307']
  else [mapByRuns lowerRuns c]

/-- The upper-case form of a character, which may be more than one character. -/
def upperChar (c : Char) : List Char :=
  if c.toNat < 0x80 then [c.toUpper]
  else match upperExpansions.lookup c.toNat with
    | some codes => codes.map Char.ofNat
    | none => [mapByRuns upperRuns c]

/-- Whether the first character that is not case-ignorable exists and is cased. -/
def startsCased (text : List Char) : Bool :=
  match text.dropWhile (inRanges caseIgnorableRanges) with
  | [] => false
  | c :: _ => inRanges casedRanges c

/-- Lower-case a text, given the characters before it in reverse order. -/
def lowerAfter : List Char -> List Char -> List Char
  | _, [] => []
  | before, c :: rest =>
    let form :=
      if c = 'Σ' then
        if startsCased before && !startsCased rest then ['ς'] else ['σ']
      else lowerChar c
    form ++ lowerAfter (c :: before) rest

/-- The lower-case form of a text. -/
def lower (text : String) : String :=
  String.ofList (lowerAfter [] text.toList)

/-- The upper-case form of a text. -/
def upper (text : String) : String :=
  String.ofList (text.toList.flatMap upperChar)

end LintClient.Text
