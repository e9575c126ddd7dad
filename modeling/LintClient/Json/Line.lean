import LintClient.Json.Scan
import LintClient.Text.Utf8

/-!
# The JSON of the line protocol

The reader for one line of linter output. It accepts standard JSON and the names of the special
numbers, and refuses escapes that do not form characters. It also refuses numbers with too many
digits before the point, and values inside too many containers: these limits are those of a release
of the reader, and the readers here take them as they are given. A refusal names its cause and the
place where it was found; places are counted in lines and in bytes of a line.
-/

namespace LintClient.Json.Line

/-- Why a text is not a JSON value. -/
inductive Cause where
  | endInValue
  | endInList
  | endInObject
  | endInString
  | expectedValue
  | expectedName
  | expectedColon
  | expectedListSeparator
  | expectedObjectSeparator
  | keyNotString
  | trailingComma
  | trailingCharacters
  | invalidNumber
  | numberTooLong
  | invalidEscape
  | loneSurrogate
  | halfSurrogatePair
  | controlCharacter
  | nestedTooDeep
deriving DecidableEq, Repr

/-- The wording of a cause. -/
def Cause.message : Cause -> String
  | .endInValue => "EOF while parsing a value"
  | .endInList => "EOF while parsing a list"
  | .endInObject => "EOF while parsing an object"
  | .endInString => "EOF while parsing a string"
  | .expectedValue => "expected value"
  | .expectedName => "expected ident"
  | .expectedColon => "expected `:`"
  | .expectedListSeparator => "expected `,` or `]`"
  | .expectedObjectSeparator => "expected `,` or `\x7d`"
  | .keyNotString => "key must be a string"
  | .trailingComma => "trailing comma"
  | .trailingCharacters => "trailing characters"
  | .invalidNumber => "invalid number"
  | .numberTooLong => "number out of range"
  | .invalidEscape => "invalid escape"
  | .loneSurrogate => "lone leading surrogate in hex escape"
  | .halfSurrogatePair => "unexpected end of hex escape"
  | .controlCharacter => "control character (\\u0000-\\u001F) found while parsing a string"
  | .nestedTooDeep => "recursion limit exceeded"

/-- A refusal: its cause and the rest of the text from the place where it was found. -/
structure Failure where
  cause : Cause
  rest : List Char
deriving DecidableEq, Repr

/-- The result of a reader at `input`. -/
abbrev Reading (α : Type) (input : List Char) := Except Failure (Parsed α input)

/-- The limits of a reader of JSON. -/
structure Limits where
  /-- The number of containers that may be nested around a value. -/
  depth : Nat
  /-- The number of digits that a number may have before its point, if there is such a limit. -/
  digits : Option Nat
  /-- Whether a minus sign takes the place of one of these digits. -/
  countsSign : Bool
deriving DecidableEq, Repr

/-- The number of digits for which the limits leave room before the point, given whether there is a
minus sign in front. -/
def Limits.room (limits : Limits) (negative : Bool) : Option Nat :=
  limits.digits.map (· - if limits.countsSign && negative then 1 else 0)

/-- The number of containers that may be nested around a value of a line. -/
def nestingLimit : Nat := 200

/-- The limits of the reader of the line protocol: 4300 digits, with the minus sign apart. Some
releases of the reader count the sign as a digit. -/
def Limits.ofReader : Limits := ⟨nestingLimit, some Numeral.digitLimit, false⟩

/-- Why the text after `\u` does not start with four hexadecimal digits. The four bytes must be
there before any of them is looked at. -/
def unitFailure (input : List Char) : Failure :=
  if Text.Utf8.byteLength (input.take 4) < 4 then ⟨.endInString, []⟩
  else ⟨.invalidEscape, input.dropWhile fun c => (hexDigit? c).isSome⟩

/-- Read the four hexadecimal digits of an escape. -/
def codeUnit (input : List Char) : Reading Nat input :=
  match input with
  | a :: b :: c :: d :: rest =>
    match codeUnit? a b c d with
    | some unit => .ok (.behind a (.behind b (.behind c (.first unit d rest))))
    | none => .error (unitFailure input)
  | _ => .error (unitFailure input)

/-- Read the second half of a surrogate pair after its first half. -/
def secondHalf (high : Nat) (input : List Char) : Reading Char input :=
  match input with
  | '\\' :: 'u' :: digits => do
    let low ← codeUnit digits
    if isLowSurrogate low.value then
      .ok (((low.map (joinSurrogates high)).behind 'u').behind '\\')
    else .error ⟨.loneSurrogate, digits.drop 3⟩
  | ['\\'] => .error ⟨.endInString, []⟩
  | '\\' :: rest => .error ⟨.halfSurrogatePair, rest⟩
  | [] => .error ⟨.endInString, []⟩
  | rest => .error ⟨.halfSurrogatePair, rest⟩

/-- Read what follows a backslash. -/
def escape (input : List Char) : Reading Char input :=
  match input with
  | [] => .error ⟨.endInString, []⟩
  | 'u' :: digits => do
    let unit ← codeUnit digits
    if isLowSurrogate unit.value then .error ⟨.loneSurrogate, digits.drop 3⟩
    else if isHighSurrogate unit.value then
      let second ← secondHalf unit.value unit.rest
      .ok ((unit.andThen second).behind 'u')
    else .ok ((unit.map Char.ofNat).behind 'u')
  | c :: rest =>
    match simpleEscape? c with
    | some escaped => .ok (.first escaped c rest)
    | none => .error ⟨.invalidEscape, c :: rest⟩

/-- Read a string after its opening quote, given the characters read so far in reverse order. The
quote is part of `whole`, of which `input` is a rest. -/
def string (whole reversed input : List Char) (within : input.length < whole.length) :
    Reading String whole :=
  match input with
  | [] => .error ⟨.endInString, []⟩
  | c :: rest =>
    if c = '"' then .ok ⟨String.ofList reversed.reverse, rest, length_lt_of_cons within⟩
    else if c = '\\' then do
      let escaped ← escape rest
      string whole (escaped.value :: reversed) escaped.rest (escaped.rest_lt_of_cons within)
    else if c.toNat < 0x20 then .error ⟨.controlCharacter, c :: rest⟩
    else string whole (c :: reversed) rest (length_lt_of_cons within)
termination_by input.length
decreasing_by
  · exact (escaped.behind c).shorter
  · exact length_lt_cons c rest

/-- Read one or more digits. -/
def digits (input : List Char) : Reading (List Char) input :=
  match input with
  | [] => .error ⟨.endInValue, []⟩
  | c :: rest =>
    if Text.isAsciiDigit c then
      .ok (((Taken.span Text.isAsciiDigit rest).map (c :: ·)).behind c)
    else .error ⟨.invalidNumber, c :: rest⟩

/-- Read the digits before the point, which start with a zero only if there are no more. -/
def wholeDigits (input : List Char) : Reading (List Char) input := do
  let read ← digits input
  match input, read.value with
  | _ :: rest, '0' :: _ :: _ => .error ⟨.invalidNumber, rest⟩
  | _, _ => .ok read

/-- Read the fraction of a number, if there is one. -/
def fraction (input : List Char) : Except Failure (Taken (Option (List Char)) input) :=
  match input with
  | '.' :: rest => do
    let digits ← digits rest
    .ok ((digits.map some).behind '.').taken
  | rest => .ok (.nothing none rest)

/-- Read the exponent of a number, if there is one. -/
def exponent (input : List Char) : Except Failure (Taken (Option Int) input) :=
  match input with
  | [] => .ok (.nothing none [])
  | c :: rest =>
    if c = 'e' || c = 'E' then do
      let negative := sign rest
      let digits ← digits negative.rest
      let exponent := exponentOf negative.value digits.value
      .ok (((negative.andThen digits).map fun _ => some exponent).behind c).taken
    else .ok (.nothing none (c :: rest))

/-- Read the digits before the point, for which there must be room. A refusal is placed one
character behind the first digit that has none. -/
def boundedDigits (room : Option Nat) (input : List Char) : Reading (List Char) input := do
  let whole ← wholeDigits input
  match room with
  | none => .ok whole
  | some room =>
    if room < whole.value.length then .error ⟨.numberTooLong, input.drop (room + 1)⟩
    else .ok whole

section Limited

variable (limits : Limits)

/-- Read a number without its sign. -/
def unsignedNumber (negative : Bool) (input : List Char) : Reading Json input := do
  let whole ← boundedDigits (limits.room negative) input
  let fraction ← fraction whole.rest
  let exponent ← exponent fraction.rest
  let numeral : Numeral := ⟨negative, whole.value, fraction.value, exponent.value⟩
  .ok ((whole.andTake (fraction.andTake exponent)).map fun _ => ofNumeral numeral)

/-- Read the remaining letters of a name of which the first has been seen. -/
def name (letters input : List Char) : Except Failure (Taken Unit input) :=
  match letters, input with
  | [], rest => .ok (.nothing () rest)
  | _ :: _, [] => .error ⟨.endInValue, []⟩
  | letter :: letters, c :: rest =>
    if letter = c then do
      let read ← name letters rest
      .ok (read.behind c).taken
    else .error ⟨.expectedName, c :: rest⟩

/-- Read a value that is a name, at its first letter. -/
def named (value : Json) (letters : String) (first : Char) (rest : List Char) :
    Reading Json (first :: rest) := do
  let read ← name letters.toList rest
  .ok ((read.map fun _ => value).behind first)

/-- Read a number with a minus sign, from behind the sign. -/
def negativeNumber (input : List Char) : Reading Json input :=
  match input with
  | 'I' :: rest => named (.float (.infinite true)) "nfinity" 'I' rest
  | input => unsignedNumber limits true input

/-- Read a value that is not a string and not a container, at its first character. -/
def scalar (first : Char) (rest : List Char) : Reading Json (first :: rest) :=
  if first = 't' then named (.bool true) "rue" first rest
  else if first = 'f' then named (.bool false) "alse" first rest
  else if first = 'n' then named .null "ull" first rest
  else if first = 'N' then named (.float .nan) "aN" first rest
  else if first = 'I' then named (.float (.infinite false)) "nfinity" first rest
  else if first = '-' then do
    let number ← negativeNumber limits rest
    .ok (number.behind first)
  else if Text.isAsciiDigit first then unsignedNumber limits false (first :: rest)
  else .error ⟨.expectedValue, first :: rest⟩

mutual

/-- Read a value at its first character, inside the given number of containers. -/
def value (enclosing : Nat) (input : List Char) : Reading Json input :=
  match input with
  | [] => .error ⟨.endInValue, []⟩
  | first :: rest =>
    if limits.depth < enclosing then .error ⟨.nestedTooDeep, first :: rest⟩
    else if first = '"' then do
      let text ← string (first :: rest) [] rest (length_lt_cons first rest)
      .ok (text.map .str)
    else if first = '[' then
      match next? rest with
      | none => .error ⟨.endInList, []⟩
      | some next =>
        if next.value = ']' then .ok ((next.map fun _ => .list []).behind first)
        else do
          let items ← items (first :: rest) (enclosing + 1) [] next.unread
            (next.unread_lt_cons first)
          .ok (items.map .list)
    else if first = '\x7b' then
      match next? rest with
      | none => .error ⟨.endInObject, []⟩
      | some next =>
        if next.value = '\x7d' then .ok ((next.map fun _ => .object []).behind first)
        else do
          let members ← members (first :: rest) (enclosing + 1) [] next.unread
            (next.unread_lt_cons first)
          .ok (members.map fun members => .object (membersOf members))
    else scalar limits first rest
termination_by (input.length, 0)
decreasing_by
  all_goals exact .left _ _ (next.unread_lt_cons first)

/-- Read the items of a list and its end, at the first character of an item, given the items read
so far in reverse order. -/
def items (whole : List Char) (enclosing : Nat) (reversed : List Json) (input : List Char)
    (within : input.length < whole.length) : Reading (List Json) whole := do
  let item ← value enclosing input
  match item.next? with
  | none => .error ⟨.endInList, []⟩
  | some next =>
    if next.value = ']' then
      .ok ⟨(item.value :: reversed).reverse, next.rest, next.rest_lt within⟩
    else if next.value = ',' then
      match next? next.rest with
      | none => .error ⟨.endInValue, []⟩
      | some start =>
        if start.value = ']' then .error ⟨.trailingComma, start.unread⟩
        else
          items whole enclosing (item.value :: reversed) start.unread
            (next.unread_lt_whole start within)
    else .error ⟨.expectedListSeparator, next.unread⟩
termination_by (input.length, 2)
decreasing_by
  · exact .right _ (by decide)
  · exact .left _ _ (next.unread_lt start)

/-- Read a member of an object, at the first character of its key. -/
def member (enclosing : Nat) (input : List Char) : Reading (String × Json) input :=
  match input with
  | [] => .error ⟨.endInValue, []⟩
  | quote :: afterQuote =>
    if quote ≠ '"' then .error ⟨.keyNotString, quote :: afterQuote⟩
    else do
      let key ← string (quote :: afterQuote) [] afterQuote (length_lt_cons quote afterQuote)
      match key.next? with
      | none => .error ⟨.endInObject, []⟩
      | some colon =>
        if colon.value ≠ ':' then .error ⟨.expectedColon, colon.unread⟩
        else do
          let read ← value enclosing (skipGap colon.rest)
          .ok ((colon.andThenBehindGap read).map (key.value, ·))
termination_by (input.length, 1)
decreasing_by
  exact .left _ _ colon.skipGap_lt

/-- Read the members of an object and its end, at the first character of a key, given the members
read so far in reverse order. -/
def members (whole : List Char) (enclosing : Nat) (reversed : List (String × Json))
    (input : List Char) (within : input.length < whole.length) :
    Reading (List (String × Json)) whole := do
  let read ← member enclosing input
  match read.next? with
  | none => .error ⟨.endInObject, []⟩
  | some next =>
    if next.value = '\x7d' then
      .ok ⟨(read.value :: reversed).reverse, next.rest, next.rest_lt within⟩
    else if next.value = ',' then
      match next? next.rest with
      | none => .error ⟨.endInValue, []⟩
      | some start =>
        if start.value = '\x7d' then .error ⟨.trailingComma, start.unread⟩
        else
          members whole enclosing (read.value :: reversed) start.unread
            (next.unread_lt_whole start within)
    else .error ⟨.expectedObjectSeparator, next.unread⟩
termination_by (input.length, 2)
decreasing_by
  · exact .right _ (by decide)
  · exact .left _ _ (next.unread_lt start)

end

/-- Read a whole text as one value with gaps around it. -/
def document (text : List Char) : Except Failure Json := do
  let read ← value limits 0 (skipGap text)
  match skipGap read.rest with
  | [] => .ok read.value
  | rest => .error ⟨.trailingCharacters, rest⟩

end Limited

/-- A place in a text. -/
structure Place where
  line : Nat
  column : Nat
deriving DecidableEq, Repr

/-- The place at which `rest` remains of `text`. A line is counted from one, and a column by the
bytes of its line up to the byte in question; at the end of the text the column is the length of
the last line, and a newline counts as the start of the line after it. -/
def placeOf (text rest : List Char) : Place :=
  let before := text.take (text.length - rest.length)
  let line := 1 + before.count '\n'
  let column := Text.Utf8.byteLength (before.reverse.takeWhile (· ≠ '\n'))
  match rest with
  | [] => ⟨line, column⟩
  | '\n' :: _ => ⟨line + 1, 0⟩
  | _ => ⟨line, column + 1⟩

/-- The wording of a failure to read `text`. -/
def Failure.message (failure : Failure) (text : List Char) : String :=
  let place := placeOf text failure.rest
  failure.cause.message ++ " at line " ++ toString place.line ++ " column "
    ++ toString place.column

end LintClient.Json.Line
