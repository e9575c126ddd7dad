/-!
# UTF-8, one byte at a time

The byte stream of a child process is cut anywhere, so it is read by a machine whose state is the
unfinished character. The machine splits a byte string into characters and maximal invalid
subparts; what becomes of an invalid subpart is the reader's choice: one replacement character,
one stray mark per byte, or a refusal of the whole text.
-/

namespace LintClient.Text.Utf8

/-- Why bytes are not part of a character. -/
inductive Defect where
  /-- The byte starts no character. -/
  | invalidStart
  /-- The byte after them does not continue the character they start. -/
  | invalidContinuation
  /-- The text ends inside the character they start. -/
  | truncated
deriving DecidableEq, Repr

/-- A character, or a maximal run of bytes that cannot be extended to one. -/
inductive Segment where
  | char (c : Char)
  | stray (bytes : List UInt8) (defect : Defect)
deriving DecidableEq, Repr

/-- The bytes of a character that has begun and is not complete. -/
inductive Pending where
  | none
  | one (lead : UInt8)
  | two (lead second : UInt8)
  | three (lead second third : UInt8)
deriving DecidableEq, Repr

/-- The pending bytes in order. -/
def Pending.bytes : Pending -> List UInt8
  | .none => []
  | .one lead => [lead]
  | .two lead second => [lead, second]
  | .three lead second third => [lead, second, third]

/-- Whether a byte continues a character. -/
def isTail (byte : UInt8) : Bool :=
  0x80 ≤ byte && byte ≤ 0xBF

/-- Whether a byte may be the second of the character that `lead` starts. Overlong forms,
surrogates and numbers above the last code point are excluded here. -/
def isSecond (lead byte : UInt8) : Bool :=
  if lead = 0xE0 then 0xA0 ≤ byte && byte ≤ 0xBF
  else if lead = 0xED then 0x80 ≤ byte && byte ≤ 0x9F
  else if lead = 0xF0 then 0x90 ≤ byte && byte ≤ 0xBF
  else if lead = 0xF4 then 0x80 ≤ byte && byte ≤ 0x8F
  else isTail byte

/-- The six payload bits of a continuation byte. -/
def payload (byte : UInt8) : Nat :=
  byte.toNat - 0x80

/-- The character of a two-byte sequence. -/
def charOfTwo (lead second : UInt8) : Char :=
  Char.ofNat ((lead.toNat - 0xC0) * 0x40 + payload second)

/-- The character of a three-byte sequence. -/
def charOfThree (lead second third : UInt8) : Char :=
  Char.ofNat ((lead.toNat - 0xE0) * 0x1000 + payload second * 0x40 + payload third)

/-- The character of a four-byte sequence. -/
def charOfFour (lead second third fourth : UInt8) : Char :=
  Char.ofNat ((lead.toNat - 0xF0) * 0x40000 + payload second * 0x1000 + payload third * 0x40
    + payload fourth)

/-- Read a byte between characters. -/
def start (byte : UInt8) : Pending × List Segment :=
  if byte < 0x80 then (.none, [.char (Char.ofNat byte.toNat)])
  else if 0xC2 ≤ byte && byte ≤ 0xF4 then (.one byte, [])
  else (.none, [.stray [byte] .invalidStart])

/-- Give up the pending bytes and read the byte that did not fit between characters. -/
def restart (pending : Pending) (byte : UInt8) : Pending × List Segment :=
  let (next, segments) := start byte
  (next, .stray pending.bytes .invalidContinuation :: segments)

/-- Read one byte. -/
def step (pending : Pending) (byte : UInt8) : Pending × List Segment :=
  match pending with
  | .none => start byte
  | .one lead =>
    if isSecond lead byte then
      if lead < 0xE0 then (.none, [.char (charOfTwo lead byte)])
      else (.two lead byte, [])
    else restart pending byte
  | .two lead second =>
    if isTail byte then
      if lead < 0xF0 then (.none, [.char (charOfThree lead second byte)])
      else (.three lead second byte, [])
    else restart pending byte
  | .three lead second third =>
    if isTail byte then (.none, [.char (charOfFour lead second third byte)])
    else restart pending byte

/-- Read bytes from a state: the state after them and the segments they complete. -/
def run (pending : Pending) (bytes : List UInt8) : Pending × List Segment :=
  let (final, reversed) := bytes.foldl
    (fun (state : Pending × List Segment) byte =>
      let (next, segments) := step state.1 byte
      (next, segments.reverse ++ state.2))
    (pending, [])
  (final, reversed.reverse)

/-- The segment that the end of the text makes of the pending bytes. -/
def finish (pending : Pending) : List Segment :=
  match pending with
  | .none => []
  | _ => [.stray pending.bytes .truncated]

/-- The segments of a whole byte string. -/
def segments (bytes : List UInt8) : List Segment :=
  let (pending, completed) := run .none bytes
  completed ++ finish pending

/-- The replacement character, which stands for one invalid subpart. -/
def replacement : Char := '\uFFFD'

/-- The character that a tolerant reader sees for a segment. -/
def Segment.lossy : Segment -> Char
  | .char c => c
  | .stray _ _ => replacement

/-- The text of a whole byte string with one replacement character per invalid subpart. -/
def decodeLossy (bytes : List UInt8) : List Char :=
  (segments bytes).map Segment.lossy

/-- The bytes of a segment. -/
def Segment.bytes : Segment -> List UInt8
  | .char c => String.utf8EncodeChar c
  | .stray bytes _ => bytes

/-- A refusal of a byte string: the bytes at fault and the number of bytes before them. -/
structure Refusal where
  position : Nat
  bytes : List UInt8
  defect : Defect
deriving DecidableEq, Repr

/-- The text of a byte string, or its first invalid subpart. -/
def decodeStrict (bytes : List UInt8) : Except Refusal (List Char) :=
  let (_, result) := (segments bytes).foldl
    (fun (state : Nat × Except Refusal (List Char)) segment =>
      let (position, result) := state
      (position + segment.bytes.length,
        match result, segment with
        | .ok reversed, .char c => .ok (c :: reversed)
        | .ok _, .stray bytes defect => .error ⟨position, bytes, defect⟩
        | .error refusal, _ => .error refusal))
    (0, .ok [])
  result.map List.reverse

/-- The bytes of a text. -/
def encode (text : List Char) : List UInt8 :=
  text.flatMap String.utf8EncodeChar

/-- The number of bytes of a text. -/
def byteLength (text : List Char) : Nat :=
  text.foldl (fun total c => total + c.utf8Size) 0

/-- The wording of a defect. -/
def Defect.message : Defect -> String
  | .invalidStart => "invalid start byte"
  | .invalidContinuation => "invalid continuation byte"
  | .truncated => "unexpected end of data"

/-- A byte as two hexadecimal digits. -/
def hexByte (byte : UInt8) : String :=
  String.ofList [Nat.digitChar (byte.toNat / 16), Nat.digitChar (byte.toNat % 16)]

/-- The report of a refusal: one byte is quoted, several are located. -/
def Refusal.message (refusal : Refusal) : String :=
  let place := match refusal.bytes with
    | [byte] => "byte 0x" ++ hexByte byte ++ " in position " ++ toString refusal.position
    | bytes => "bytes in position " ++ toString refusal.position ++ "-"
        ++ toString (refusal.position + bytes.length - 1)
  "'utf-8' codec can't decode " ++ place ++ ": " ++ refusal.defect.message

end LintClient.Text.Utf8
