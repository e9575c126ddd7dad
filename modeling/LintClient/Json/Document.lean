import LintClient.Json.Scan

/-!
# The JSON of configuration files

The reader for a whole file. It accepts the same values as the line protocol apart from the depth of
nesting, is less strict about surrogates, and words and locates its refusals differently: places are
counted in characters, and a number or name that is not finished is no value at all. A half of a
surrogate pair whose other half is missing is a part of the text. How many digits an integer may
have is up to the caller; a file has the usual limit.
-/

namespace LintClient.Json.Document

open Text (Source SourceUnit)

/-- Why a text is not a JSON document. -/
inductive Cause where
  | expectedValue
  | expectedKey
  | expectedColon
  | expectedComma
  | unterminatedString
  | controlCharacter
  | invalidEscape
  | invalidUnicodeEscape
  | extraData
  | byteOrderMark
  /-- An integer with more digits than are converted. -/
  | tooManyDigits (digits : Nat)
  /-- More containers inside one another than the reader follows. -/
  | nestedTooDeep
deriving DecidableEq, Repr

/-- A refusal: its cause and the rest of the text from the place where it was found. -/
structure Failure where
  cause : Cause
  rest : List Char
deriving DecidableEq, Repr

/-- The result of a reader at `input`. -/
abbrev Reading (α : Type) (input : List Char) := Except Failure (Parsed α input)

/-- The number of containers that may be nested inside one another. -/
def nestingLimit : Nat := 980

/-- Read the four digits of an escape and at least one character behind them, from behind the
`u` at the front of `mark`. -/
def codeUnit (mark input : List Char) : Reading Nat input :=
  match input with
  | a :: b :: c :: d :: next :: rest =>
    match codeUnit? a b c d with
    | some unit => .ok (.behind a (.behind b (.behind c (.first unit d (next :: rest)))))
    | none => .error ⟨.invalidUnicodeEscape, mark⟩
  | _ => .error ⟨.invalidUnicodeEscape, mark⟩

/-- Read the second half of a surrogate pair. Text that is not a second half is left alone, and then
the first half stands for itself. -/
def secondHalf (high : Nat) (input : List Char) : Except Failure (Taken SourceUnit input) :=
  let alone := SourceUnit.ofCode high
  match input with
  | '\\' :: 'u' :: digits =>
    if (digits.drop 4).isEmpty then .ok (.nothing alone ('\\' :: 'u' :: digits))
    else do
      let low ← codeUnit ('u' :: digits) digits
      if isLowSurrogate low.value then
        .ok (((low.map fun low => .char (joinSurrogates high low)).behind 'u').behind '\\').taken
      else .ok (.nothing alone ('\\' :: 'u' :: digits))
  | rest => .ok (.nothing alone rest)

/-- Read what follows a backslash in the string `whole`. -/
def escape (whole input : List Char) : Reading SourceUnit input :=
  match input with
  | [] => .error ⟨.unterminatedString, whole⟩
  | 'u' :: digits => do
    let unit ← codeUnit ('u' :: digits) digits
    if isHighSurrogate unit.value then
      let joined ← secondHalf unit.value unit.rest
      .ok ((unit.andTake joined).behind 'u')
    else .ok ((unit.map SourceUnit.ofCode).behind 'u')
  | c :: rest =>
    match simpleEscape? c with
    | some escaped => .ok (.first (.char escaped) c rest)
    | none => .error ⟨.invalidEscape, '\\' :: c :: rest⟩

/-- Read a string after its opening quote, with which `whole` starts, given the units read so far in
reverse order. -/
def string (whole : List Char) (reversed : Source) (input : List Char)
    (within : input.length < whole.length) : Reading Source whole :=
  match input with
  | [] => .error ⟨.unterminatedString, whole⟩
  | c :: rest =>
    if c = '"' then .ok ⟨reversed.reverse, rest, length_lt_of_cons within⟩
    else if c = '\\' then do
      let escaped ← escape whole rest
      string whole (escaped.value :: reversed) escaped.rest (escaped.rest_lt_of_cons within)
    else if c.toNat < 0x20 then .error ⟨.controlCharacter, c :: rest⟩
    else string whole (.char c :: reversed) rest (length_lt_of_cons within)
termination_by input.length
decreasing_by
  · exact (escaped.behind c).shorter
  · exact length_lt_cons c rest

/-- The digits before the point: a zero, or digits that do not start with one. -/
def wholeDigits? (input : List Char) : Option (Parsed (List Char) input) :=
  match input with
  | [] => none
  | '0' :: rest => some (.first ['0'] '0' rest)
  | c :: rest =>
    if Text.isAsciiDigit c then
      some (((Taken.span Text.isAsciiDigit rest).map (c :: ·)).behind c)
    else none

/-- The fraction at the front of a text; a point that no digit follows is left alone. -/
def fraction (input : List Char) : Taken (Option (List Char)) input :=
  match input with
  | '.' :: rest =>
    let digits := Taken.span Text.isAsciiDigit rest
    if digits.value.isEmpty then .nothing none ('.' :: rest)
    else ((digits.map some).behind '.').taken
  | rest => .nothing none rest

/-- The exponent at the front of a text; a letter that no digit follows is left alone. -/
def exponent (input : List Char) : Taken (Option Int) input :=
  match input with
  | [] => .nothing none []
  | c :: rest =>
    if c = 'e' || c = 'E' then
      let negative := sign rest
      let digits := Taken.span Text.isAsciiDigit negative.rest
      if digits.value.isEmpty then .nothing none (c :: rest)
      else
        let exponent := exponentOf negative.value digits.value
        (((negative.andTake digits).map fun _ => some exponent).behind c).taken
    else .nothing none (c :: rest)

section

variable (digitLimit : Option Nat)

/-- Read a number without its sign. The number itself starts with `mark`. -/
def unsignedNumber (mark : List Char) (negative : Bool) (input : List Char) :
    Reading Json input :=
  match wholeDigits? input with
  | none => .error ⟨.expectedValue, mark⟩
  | some whole =>
    let fraction := fraction whole.rest
    let exponent := exponent fraction.rest
    let numeral : Numeral := ⟨negative, whole.value, fraction.value, exponent.value⟩
    if numeral.isInteger && digitLimit.any (· < whole.value.length) then
      .error ⟨.tooManyDigits whole.value.length, mark⟩
    else .ok ((whole.andTake (fraction.andTake exponent)).map fun _ => ofNumeral numeral)

/-- Read a value that is a name, if the text starts with that name. -/
def named? (input : List Char) (value : Json) (first : Char) (letters : String) :
    Option (Parsed Json input) :=
  match input with
  | [] => none
  | c :: rest =>
    if c = first then
      (letters? letters.toList rest).map fun read => (read.map fun _ => value).behind c
    else none

/-- Read a value that is not a string and not a container. -/
def scalar (input : List Char) : Reading Json input :=
  let names := [
    (Json.null, 'n', "ull"), (.bool true, 't', "rue"), (.bool false, 'f', "alse"),
    (.float .nan, 'N', "aN"), (.float (.infinite false), 'I', "nfinity"),
    (.float (.infinite true), '-', "Infinity")]
  match names.findSome? fun (value, first, letters) => named? input value first letters with
  | some read => .ok read
  | none =>
    match input with
    | '-' :: rest => do
      let number ← unsignedNumber digitLimit ('-' :: rest) true rest
      .ok (number.behind '-')
    | input => unsignedNumber digitLimit input false input

mutual

/-- Read a value inside the given number of containers. -/
def value (enclosing : Nat) (input : List Char) : Reading Json input :=
  match input with
  | [] => .error ⟨.expectedValue, []⟩
  | first :: rest =>
    if first = '"' then do
      let text ← string (first :: rest) [] rest (length_lt_cons first rest)
      .ok (text.map ofSource)
    else if first = '[' then
      if nestingLimit ≤ enclosing then .error ⟨.nestedTooDeep, first :: rest⟩
      else match next? rest with
      | none => .error ⟨.expectedValue, []⟩
      | some next =>
        if next.value = ']' then .ok ((next.map fun _ => .list []).behind first)
        else do
          let items ← items (first :: rest) (enclosing + 1) [] next.unread
            (next.unread_lt_cons first)
          .ok (items.map .list)
    else if first = '\x7b' then
      if nestingLimit ≤ enclosing then .error ⟨.nestedTooDeep, first :: rest⟩
      else match next? rest with
      | none => .error ⟨.expectedKey, []⟩
      | some next =>
        if next.value = '\x7d' then .ok ((next.map fun _ => .object []).behind first)
        else do
          let members ← members (first :: rest) (enclosing + 1) [] next.unread
            (next.unread_lt_cons first)
          .ok (members.map objectOf)
    else scalar digitLimit (first :: rest)
termination_by (input.length, 0)
decreasing_by
  all_goals exact .left _ _ (next.unread_lt_cons first)

/-- Read the items of a list and its end, given the items read so far in reverse order. -/
def items (whole : List Char) (enclosing : Nat) (reversed : List Json) (input : List Char)
    (within : input.length < whole.length) : Reading (List Json) whole := do
  let item ← value enclosing input
  match item.next? with
  | none => .error ⟨.expectedComma, []⟩
  | some next =>
    if next.value = ']' then
      .ok ⟨(item.value :: reversed).reverse, next.rest, next.rest_lt within⟩
    else if next.value = ',' then
      items whole enclosing (item.value :: reversed) (skipGap next.rest)
        (next.skipGap_lt_whole within)
    else .error ⟨.expectedComma, next.unread⟩
termination_by (input.length, 2)
decreasing_by
  · exact .right _ (by decide)
  · exact .left _ _ next.skipGap_lt

/-- Read a member of an object: a key, a colon and a value. -/
def member (enclosing : Nat) (input : List Char) : Reading (Source × Json) input :=
  match input with
  | [] => .error ⟨.expectedKey, []⟩
  | quote :: afterQuote =>
    if quote ≠ '"' then .error ⟨.expectedKey, quote :: afterQuote⟩
    else do
      let key ← string (quote :: afterQuote) [] afterQuote (length_lt_cons quote afterQuote)
      match key.next? with
      | none => .error ⟨.expectedColon, []⟩
      | some colon =>
        if colon.value ≠ ':' then .error ⟨.expectedColon, colon.unread⟩
        else do
          let read ← value enclosing (skipGap colon.rest)
          .ok ((colon.andThenBehindGap read).map (key.value, ·))
termination_by (input.length, 1)
decreasing_by
  exact .left _ _ colon.skipGap_lt

/-- Read the members of an object and its end, given the members read so far in reverse order. -/
def members (whole : List Char) (enclosing : Nat) (reversed : List (Source × Json))
    (input : List Char) (within : input.length < whole.length) :
    Reading (List (Source × Json)) whole := do
  let read ← member enclosing input
  match read.next? with
  | none => .error ⟨.expectedComma, []⟩
  | some next =>
    if next.value = '\x7d' then
      .ok ⟨(read.value :: reversed).reverse, next.rest, next.rest_lt within⟩
    else if next.value = ',' then
      members whole enclosing (read.value :: reversed) (skipGap next.rest)
        (next.skipGap_lt_whole within)
    else .error ⟨.expectedComma, next.unread⟩
termination_by (input.length, 2)
decreasing_by
  · exact .right _ (by decide)
  · exact .left _ _ next.skipGap_lt

end

/-- Read a whole text as one value with gaps around it. -/
def documentWithin (text : List Char) : Except Failure Json := do
  if text.head? = some '\uFEFF' then .error ⟨.byteOrderMark, text⟩
  let read ← value digitLimit 0 (skipGap text)
  match skipGap read.rest with
  | [] => .ok read.value
  | rest => .error ⟨.extraData, rest⟩

end

/-- Read a whole text, with the usual limit on the digits of an integer. -/
def document (text : List Char) : Except Failure Json :=
  documentWithin (some Numeral.digitLimit) text

/-- The wording of a cause that is located in the text. -/
def Cause.message : Cause -> String
  | .expectedValue => "Expecting value"
  | .expectedKey => "Expecting property name enclosed in double quotes"
  | .expectedColon => "Expecting ':' delimiter"
  | .expectedComma => "Expecting ',' delimiter"
  | .unterminatedString => "Unterminated string starting at"
  | .controlCharacter => "Invalid control character at"
  | .invalidEscape => "Invalid \\escape"
  | .invalidUnicodeEscape => "Invalid \\uXXXX escape"
  | .extraData => "Extra data"
  | .byteOrderMark => "Unexpected UTF-8 BOM (decode using utf-8-sig)"
  | .tooManyDigits digits =>
    "Exceeds the limit (" ++ toString Numeral.digitLimit
      ++ " digits) for integer string conversion: value has " ++ toString digits
      ++ " digits; use sys.set_int_max_str_digits() to increase the limit"
  | .nestedTooDeep => "maximum recursion depth exceeded"

/-- The wording of a failure to read `text`, with its line, column and offset. Causes that concern
the whole value carry no place. -/
def Failure.message (failure : Failure) (text : List Char) : String :=
  match failure.cause with
  | .tooManyDigits _ | .nestedTooDeep => failure.cause.message
  | cause =>
    let before := text.take (text.length - failure.rest.length)
    let line := 1 + before.count '\n'
    let column := 1 + (before.reverse.takeWhile (· ≠ '\n')).length
    cause.message ++ ": line " ++ toString line ++ " column " ++ toString column ++ " (char "
      ++ toString before.length ++ ")"

end LintClient.Json.Document
