import LintClient.Text.Blank
import LintClient.Text.Case
import LintClient.Text.Quoted
import LintClient.Text.Utf8

/-!
# Source text

The text to lint. A file is read with replacement characters for what is not UTF-8, but standard
input keeps the bytes that are no part of its text, each at its place: a half of a surrogate pair
stands for such a byte. A text with halves of surrogate pairs has no UTF-8 form. Such texts also
come out of configuration files, where an escape may spell any half of a surrogate pair; the
operating system takes a half that stands for a byte as this byte, and refuses all others.
-/

namespace LintClient.Text

/-- A half of a surrogate pair, which is a code point but no character. -/
structure Surrogate where
  code : Nat
  isSurrogate : 0xD800 ≤ code ∧ code ≤ 0xDFFF
deriving DecidableEq, Repr

/-- The half of a surrogate pair that stands for a byte. -/
def Surrogate.ofByte (byte : UInt8) : Surrogate :=
  ⟨0xDC00 + byte.toNat, by have small := byte.toNat_lt; omega⟩

/-- Whether a half of a surrogate pair stands for a byte that is no part of a text. -/
def Surrogate.standsForByte (surrogate : Surrogate) : Bool :=
  0xDC80 ≤ surrogate.code && surrogate.code ≤ 0xDCFF

/-- The escape that a half of a surrogate pair is shown as. -/
def Surrogate.escape (surrogate : Surrogate) : List Char :=
  '\\' :: 'u' :: hexDigits 4 surrogate.code

/-- A unit of source text. -/
inductive SourceUnit where
  | char (c : Char)
  /-- Half of a surrogate pair, without its other half. -/
  | stray (surrogate : Surrogate)
deriving DecidableEq, Repr

/-- The unit of a code point. -/
def SourceUnit.ofCode (code : Nat) : SourceUnit :=
  if isSurrogate : 0xD800 ≤ code ∧ code ≤ 0xDFFF then .stray ⟨code, isSurrogate⟩
  else .char (Char.ofNat code)

/-- A source text. -/
abbrev Source := List SourceUnit

namespace Source

/-- A text that is made of characters. -/
def ofText (text : List Char) : Source :=
  text.map .char

/-- A text that is given as a string. -/
def ofString (text : String) : Source :=
  ofText text.toList

/-- The characters of a text that is made of them. -/
def characters? : Source -> Option (List Char)
  | [] => some []
  | .char c :: rest => (characters? rest).map (c :: ·)
  | .stray _ :: _ => none

/-- The units of a segment, where stray bytes are kept. -/
def unitsOf : Utf8.Segment -> List SourceUnit
  | .char c => [.char c]
  | .stray bytes _ => bytes.map fun byte => .stray (.ofByte byte)

/-- The text of standard input. -/
def ofInput (bytes : List UInt8) : Source :=
  readNewlines (.char '\r') (.char '\n') ((Utf8.segments bytes).flatMap unitsOf)

/-- The text of a file. -/
def ofFile (bytes : List UInt8) : Source :=
  ofText (universalNewlines (Utf8.decodeLossy bytes))

/-- Whether a unit is half of a surrogate pair. -/
def isStray : SourceUnit -> Bool
  | .char _ => false
  | .stray _ => true

/-- Whether a unit is half of a surrogate pair that stands for no byte. -/
def isForeign : SourceUnit -> Bool
  | .char _ => false
  | .stray surrogate => !surrogate.standsForByte

/-- A run of halves of surrogate pairs in a text, with the number of units before it. -/
structure StrayRun where
  position : Nat
  first : Surrogate
  length : Nat
deriving DecidableEq, Repr

/-- The halves of surrogate pairs from the first one of a kind on. -/
def runFrom? (starts : SourceUnit -> Bool) (source : Source) : Option StrayRun :=
  let before := source.takeWhile (!starts ·)
  match source.dropWhile (!starts ·) with
  | .stray surrogate :: rest => some ⟨before.length, surrogate, 1 + (rest.takeWhile isStray).length⟩
  | _ => none

/-- The first run of halves of surrogate pairs in a text. -/
def strayRun? (source : Source) : Option StrayRun :=
  source.runFrom? isStray

/-- The halves of surrogate pairs in a text from the first one on that stands for no byte. -/
def foreignRun? (source : Source) : Option StrayRun :=
  source.runFrom? isForeign

/-- The wording for a run of halves of surrogate pairs: one is quoted, several are located. -/
def StrayRun.message (run : StrayRun) : String :=
  let place :=
    if run.length = 1 then
      "character '" ++ String.ofList run.first.escape ++ "' in position " ++ toString run.position
    else
      "characters in position " ++ toString run.position ++ "-"
        ++ toString (run.position + run.length - 1)
  "'utf-8' codec can't encode " ++ place ++ ": surrogates not allowed"

/-- The UTF-8 form of a text, unless it has halves of surrogate pairs. -/
def encode (source : Source) : Except StrayRun (List UInt8) :=
  match strayRun? source with
  | some run => .error run
  | none => .ok (source.flatMap fun
    | .char c => String.utf8EncodeChar c
    | .stray _ => [])

/-- The characters that a text shows where it cannot be written: a half of a surrogate pair is shown
by its escape. -/
def shown (source : Source) : String :=
  String.ofList (source.flatMap fun
    | .char c => [c]
    | .stray surrogate => surrogate.escape)

/-- The characters of a text, with replacement characters for halves of surrogate pairs. -/
def replaced (source : Source) : List Char :=
  source.map fun
    | .char c => c
    | .stray _ => '\uFFFD'

/-- The lower-case form of a text, given the characters since the last half of a surrogate pair in
reverse order. Such a half has no case, and ends a word. -/
def lowerFrom (reversed : List Char) : Source -> Source
  | [] => ofText (lowerAfter [] reversed.reverse)
  | .char c :: rest => lowerFrom (c :: reversed) rest
  | .stray surrogate :: rest =>
    ofText (lowerAfter [] reversed.reverse) ++ .stray surrogate :: lowerFrom [] rest

/-- The lower-case form of a text. -/
def lower (source : Source) : Source :=
  lowerFrom [] source

/-- A text in quotes, where halves of surrogate pairs are written as escapes. -/
def quoted (source : Source) : String :=
  let quote := quoteFor source.replaced
  let inside := source.flatMap fun
    | .char c => quotedChar quote c
    | .stray surrogate => surrogate.escape
  String.ofList (quote :: inside ++ [quote])

/-- Words as one text. -/
def joined (words : List Source) : Source :=
  List.intercalate [.char ' '] words

/-- The characters of a text are what it is made of. -/
theorem characters?_eq_some_iff {source : Source} {text : List Char} :
    source.characters? = some text ↔ source = ofText text := by
  induction source generalizing text with
  | nil => cases text <;> simp [characters?, ofText]
  | cons unit rest inductionHypothesis =>
      cases unit with
      | char c =>
        cases text <;> simp [characters?, ofText, inductionHypothesis, and_assoc, and_comm]
      | stray surrogate => cases text <;> simp [characters?, ofText]

/-- A text that is made of characters has these characters. -/
@[simp] theorem characters?_ofText (text : List Char) : (ofText text).characters? = some text :=
  characters?_eq_some_iff.mpr rfl

/-- The lower-case form of a text that is made of characters is made of characters. -/
theorem lower_ofText (text : List Char) : lower (ofText text) = ofText (lowerAfter [] text) := by
  have goesOn (reversed : List Char) :
      lowerFrom reversed (ofText text) = ofText (lowerAfter [] (reversed.reverse ++ text)) := by
    induction text generalizing reversed with
    | nil => simp [ofText, lowerFrom]
    | cons c text inductionHypothesis =>
        have step : lowerFrom reversed (ofText (c :: text)) =
            lowerFrom (c :: reversed) (ofText text) := rfl
        rw [step, inductionHypothesis, List.reverse_cons, List.append_assoc, List.singleton_append]
  exact goesOn []

end Source

/-- A text with a half of a surrogate pair. -/
structure StrayText where
  source : Source
  isStray : source.characters? = none
deriving DecidableEq, Repr

end LintClient.Text
