import LintClient.Json.Basic
import LintClient.Number.Numeral

/-!
# Scanning JSON text

What the two JSON readers have in common: the form of a reader's result, which carries the proof
that it went forward, and the lexical classes of JSON. A reader takes the rest of the text and
refers to a place in the text by what remains from there on. Going forward composes, so the proof
is made here once and the readers only join results.
-/

namespace LintClient.Json

/-- A value read from the front of `input`, and the rest, which is shorter. -/
structure Parsed (α : Type) (input : List Char) where
  value : α
  rest : List Char
  shorter : rest.length < input.length

/-- A value read from the front of `input`, perhaps from nothing of it, and the rest. -/
structure Taken (α : Type) (input : List Char) where
  value : α
  rest : List Char
  notLonger : rest.length ≤ input.length

/-- The characters that may stand between the tokens of a JSON text. -/
def isGap (c : Char) : Bool :=
  c == ' ' || c == '\n' || c == '\t' || c == '\r'

/-- Drop the gap at the front of a text. -/
def skipGap (text : List Char) : List Char :=
  text.dropWhile isGap

/-- Dropping a class of characters from the front does not lengthen a text. -/
theorem length_dropWhile_le {α : Type} (test : α -> Bool) (text : List α) :
    (text.dropWhile test).length ≤ text.length :=
  (List.dropWhile_suffix test).length_le

/-- Skipping a gap does not lengthen a text. -/
theorem length_skipGap_le (text : List Char) : (skipGap text).length ≤ text.length :=
  length_dropWhile_le isGap text

/-- A text is shorter than itself behind one more character. -/
theorem length_lt_cons (c : Char) (rest : List Char) : rest.length < (c :: rest).length :=
  Nat.lt_succ_self rest.length

/-- A text without its first character is shorter than what the text is shorter than. -/
theorem length_lt_of_cons {c : Char} {rest whole : List Char}
    (within : (c :: rest).length < whole.length) : rest.length < whole.length :=
  Nat.lt_of_succ_lt within

namespace Parsed

variable {α β : Type} {input whole : List Char}

/-- A value read from one character. -/
def first (value : α) (c : Char) (rest : List Char) : Parsed α (c :: rest) :=
  ⟨value, rest, length_lt_cons c rest⟩

/-- The same reading with another value. -/
def map (f : α -> β) (read : Parsed α input) : Parsed β input :=
  ⟨f read.value, read.rest, read.shorter⟩

/-- The same reading behind one more character. -/
def behind (c : Char) (read : Parsed α input) : Parsed α (c :: input) :=
  ⟨read.value, read.rest, Nat.lt_succ_of_lt read.shorter⟩

/-- The reading without the knowledge that it consumed something. -/
def taken (read : Parsed α input) : Taken α input :=
  ⟨read.value, read.rest, Nat.le_of_lt read.shorter⟩

/-- The later of two readings in a row, as a reading from the start of the first. -/
def andThen (read : Parsed α input) (next : Parsed β read.rest) : Parsed β input :=
  ⟨next.value, next.rest, Nat.lt_trans next.shorter read.shorter⟩

/-- A reading followed by one that may have consumed nothing. -/
def andTake (read : Parsed α input) (next : Taken β read.rest) : Parsed β input :=
  ⟨next.value, next.rest, Nat.lt_of_le_of_lt next.notLonger read.shorter⟩

/-- The later of two readings with a gap between them. -/
def andThenBehindGap (read : Parsed α input) (next : Parsed β (skipGap read.rest)) :
    Parsed β input :=
  ⟨next.value, next.rest,
    Nat.lt_trans (Nat.lt_of_lt_of_le next.shorter (length_skipGap_le read.rest)) read.shorter⟩

/-- The text from a character that was read on. -/
def unread (read : Parsed Char input) : List Char :=
  read.value :: read.rest

/-- What a reading leaves is shorter than what its input is shorter than. -/
theorem rest_lt (read : Parsed α input) (within : input.length < whole.length) :
    read.rest.length < whole.length :=
  Nat.lt_trans read.shorter within

/-- What a reading leaves is shorter than what its input behind a character is shorter than. -/
theorem rest_lt_of_cons {c : Char} (read : Parsed α input)
    (within : (c :: input).length < whole.length) : read.rest.length < whole.length :=
  read.rest_lt (length_lt_of_cons within)

/-- The rest behind a gap is shorter than the input. -/
theorem skipGap_lt (read : Parsed α input) : (skipGap read.rest).length < input.length :=
  Nat.lt_of_le_of_lt (length_skipGap_le read.rest) read.shorter

/-- The rest behind a gap is shorter than what the input is shorter than. -/
theorem skipGap_lt_whole (read : Parsed α input) (within : input.length < whole.length) :
    (skipGap read.rest).length < whole.length :=
  Nat.lt_trans read.skipGap_lt within

/-- A text from a character on is shorter than the input behind one more character. -/
theorem unread_lt_cons (c : Char) (read : Parsed Char input) :
    read.unread.length < (c :: input).length :=
  Nat.succ_lt_succ read.shorter

/-- A text from a later character on is shorter than the input of an earlier reading. -/
theorem unread_lt (read : Parsed α input) (start : Parsed Char read.rest) :
    start.unread.length < input.length :=
  Nat.lt_of_le_of_lt start.shorter read.shorter

/-- A text from a later character on is shorter than what the input of an earlier reading is
shorter than. -/
theorem unread_lt_whole (read : Parsed α input) (start : Parsed Char read.rest)
    (within : input.length < whole.length) : start.unread.length < whole.length :=
  Nat.lt_trans (read.unread_lt start) within

end Parsed

namespace Taken

variable {α β : Type} {input : List Char}

/-- A value that stands for nothing in the text. -/
def nothing (value : α) (input : List Char) : Taken α input :=
  ⟨value, input, Nat.le_refl input.length⟩

/-- The characters of a class at the front of a text. -/
def span (test : Char -> Bool) (input : List Char) : Taken (List Char) input :=
  ⟨input.takeWhile test, input.dropWhile test, length_dropWhile_le test input⟩

/-- The same reading with another value. -/
def map (f : α -> β) (read : Taken α input) : Taken β input :=
  ⟨f read.value, read.rest, read.notLonger⟩

/-- The same reading behind a character, which it thereby consumes. -/
def behind (c : Char) (read : Taken α input) : Parsed α (c :: input) :=
  ⟨read.value, read.rest, Nat.lt_succ_of_le read.notLonger⟩

/-- The later of two readings in a row, as a reading from the start of the first. -/
def andTake (read : Taken α input) (next : Taken β read.rest) : Taken β input :=
  ⟨next.value, next.rest, Nat.le_trans next.notLonger read.notLonger⟩

/-- A reading followed by one that consumed something. -/
def andThen (read : Taken α input) (next : Parsed β read.rest) : Parsed β input :=
  ⟨next.value, next.rest, Nat.lt_of_lt_of_le next.shorter read.notLonger⟩

end Taken

/-- The first character of a text behind the gap at its front. -/
def next? (input : List Char) : Option (Parsed Char input) :=
  match Taken.span isGap input with
  | ⟨_, [], _⟩ => none
  | ⟨_, c :: rest, notLonger⟩ => some ⟨c, rest, notLonger⟩

/-- The first character behind the gap that follows a reading. -/
def Parsed.next? {α : Type} {input : List Char} (read : Parsed α input) :
    Option (Parsed Char input) :=
  (Json.next? read.rest).map read.andThen

/-- An optional sign: whether it is a minus. -/
def sign (input : List Char) : Taken Bool input :=
  match input with
  | [] => .nothing false []
  | c :: rest =>
    if c = '-' || c = '+' then ((Taken.nothing (c == '-') rest).behind c).taken
    else .nothing false (c :: rest)

/-- The given letters at the front of a text. -/
def letters? (letters input : List Char) : Option (Taken Unit input) :=
  match letters, input with
  | [], rest => some (.nothing () rest)
  | _ :: _, [] => none
  | letter :: letters, c :: rest =>
    if letter = c then (letters? letters rest).map fun read => (read.behind c).taken else none

/-- The value of a hexadecimal digit. -/
def hexDigit? (c : Char) : Option Nat :=
  if '0' ≤ c && c ≤ '9' then some (c.toNat - '0'.toNat)
  else if 'a' ≤ c && c ≤ 'f' then some (c.toNat - 'a'.toNat + 10)
  else if 'A' ≤ c && c ≤ 'F' then some (c.toNat - 'A'.toNat + 10)
  else none

/-- The sixteen-bit unit that four hexadecimal digits spell. -/
def codeUnit? (a b c d : Char) : Option Nat := do
  let a ← hexDigit? a
  let b ← hexDigit? b
  let c ← hexDigit? c
  let d ← hexDigit? d
  pure (((a * 16 + b) * 16 + c) * 16 + d)

/-- Whether a unit is the first half of a surrogate pair. -/
def isHighSurrogate (unit : Nat) : Bool :=
  0xD800 ≤ unit && unit ≤ 0xDBFF

/-- Whether a unit is the second half of a surrogate pair. -/
def isLowSurrogate (unit : Nat) : Bool :=
  0xDC00 ≤ unit && unit ≤ 0xDFFF

/-- The character that a surrogate pair stands for. -/
def joinSurrogates (high low : Nat) : Char :=
  Char.ofNat (0x10000 + (high - 0xD800) * 0x400 + (low - 0xDC00))

/-- The character that a one-letter escape stands for. -/
def simpleEscape? (c : Char) : Option Char :=
  match c with
  | '"' => some '"'
  | '\\' => some '\\'
  | '/' => some '/'
  | 'b' => some '\x08'
  | 'f' => some '\x0c'
  | 'n' => some '\n'
  | 'r' => some '\r'
  | 't' => some '\t'
  | _ => none

/-- The value that a numeral denotes. -/
def ofNumeral (numeral : Numeral) : Json :=
  if numeral.isInteger then .int numeral.toInt else .float numeral.toBinary64

end LintClient.Json
