import LintClient.Json.Access
import LintClient.Log.Stamp
import LintClient.Text.Digit

/-!
# Path templates

The path of a log file is a template: a field in braces is filled in, and a doubled brace stands for
a single one. A field has a name, which may go on with attributes and items; it may ask for a
conversion behind an exclamation mark and for a form behind a colon, and the form may have fields of
its own. The only name that is known is that of the time.
-/

namespace LintClient.Log.Template

open Json (Misuse)

/-- Why a template cannot be filled in. -/
inductive Fault where
  | loneOpening
  | loneClosing
  | openField
  | openingInName
  | openForm
  /-- The conversion is missing. -/
  | noConversion
  /-- Something else than a form follows a conversion. -/
  | noForm
  /-- A field is to be filled in by its position. -/
  | positional
  | longNumber
  | nestedTooDeep
  | emptyAttribute
  | openItem
  | afterItem
  | unknownConversion (letter : Char)
  /-- A form asks for more digits of the second than there are. -/
  | tooFine
  | misuse (cause : Misuse)
deriving DecidableEq, Repr

/-- The wording of a fault, where it has one. -/
def Fault.message? : Fault -> Option String
  | .loneOpening => some "Single '\x7b' encountered in format string"
  | .loneClosing => some "Single '\x7d' encountered in format string"
  | .openField => some "expected '\x7d' before end of string"
  | .openingInName => some "unexpected '\x7b' in field name"
  | .openForm => some "unmatched '\x7b' in format spec"
  | .noConversion => some "end of string while looking for conversion specifier"
  | .noForm => some "expected ':' after conversion specifier"
  | .positional => some "Format string contains positional fields"
  | .longNumber => some "Too many decimal digits in format string"
  | .nestedTooDeep => some "Max string recursion exceeded"
  | .emptyAttribute => some "Empty attribute in format string"
  | .openItem => some "Missing ']' in format string"
  | .afterItem => some "Only '.' or '[' may follow ']' in format field specifier"
  | .unknownConversion letter =>
    let code := letter.toNat
    let shown := if 32 < code && code < 127 then String.singleton letter
      else "\\x" ++ String.ofList (Nat.toDigits 16 code)
    some ("Unknown conversion specifier " ++ shown)
  | .tooFine =>
    some ("Invalid time format: the provided format string contains more than six successive 'S' "
      ++ "characters. This may be due to an attempt to use nanosecond precision, which is not "
      ++ "supported.")
  | .misuse cause => cause.message?

/-! ## Reading -/

/-- A field of a template. -/
structure Field where
  name : List Char
  conversion : Option Char
  form : List Char
deriving DecidableEq, Repr

/-- A piece of a template. -/
inductive Piece where
  | character (c : Char)
  | field (field : Field)
deriving DecidableEq, Repr

/-- The name of a field, the character that ends it, and what follows. Between brackets no character
ends a name. -/
def readName (inBrackets : Bool) : List Char -> Except Fault (List Char × Char × List Char)
  | [] => .error .openField
  | c :: rest => do
    let ends := !inBrackets && (c == '\x7d' || c == ':' || c == '!')
    if !inBrackets && c == '\x7b' then throw .openingInName
    else if ends then pure ([], c, rest)
    else
      let (name, mark, rest) ← readName (if inBrackets then c != ']' else c == '[') rest
      pure (c :: name, mark, rest)

/-- A form up to its closing brace, in which `depth` braces are open, and what follows. -/
def readForm (depth : Nat) : List Char -> Except Fault (List Char × List Char)
  | [] => .error .openForm
  | c :: rest =>
    if c == '\x7d' && depth == 0 then .ok ([], rest)
    else do
      let inner := if c == '\x7b' then depth + 1 else if c == '\x7d' then depth - 1 else depth
      let (form, rest) ← readForm inner rest
      pure (c :: form, rest)

/-- A field behind its opening brace, and what follows. -/
def readField (text : List Char) : Except Fault (Field × List Char) := do
  let (name, mark, rest) ← readName false text
  if mark == '\x7d' then pure (⟨name, none, []⟩, rest)
  else if mark == ':' then
    let (form, rest) ← readForm 0 rest
    pure (⟨name, none, form⟩, rest)
  else match rest with
    | [] => throw .noConversion
    | [_] => throw .openForm
    | letter :: next :: rest =>
      if next == '\x7d' then pure (⟨name, some letter, []⟩, rest)
      else if next == ':' then
        let (form, rest) ← readForm 0 rest
        pure (⟨name, some letter, form⟩, rest)
      else throw .noForm

/-- The first pieces of a template, at most `count` of them, up to its first fault. -/
def readPieces : Nat -> List Char -> List Piece × Option Fault
  | 0, _ | _, [] => ([], none)
  | count + 1, c :: rest =>
    let andThen (piece : Piece) (rest : List Char) : List Piece × Option Fault :=
      let (pieces, fault) := readPieces count rest
      (piece :: pieces, fault)
    if c == '\x7b' then match rest with
      | [] => ([], some .loneOpening)
      | next :: after =>
        if next == '\x7b' then andThen (.character c) after
        else match readField rest with
          | .ok (field, rest) => andThen (.field field) rest
          | .error fault => ([], some fault)
    else if c == '\x7d' then match rest with
      | '\x7d' :: rest => andThen (.character c) rest
      | _ => ([], some .loneClosing)
    else andThen (.character c) rest

/-- The pieces of a template up to its first fault. A piece has at least one character. -/
def pieces (text : List Char) : List Piece × Option Fault :=
  readPieces text.length text

/-! ## Filling in -/

/-- What a field stands for. -/
inductive Value where
  /-- The time, whose only attribute is its moment. -/
  | time (now : Stamp)
  | moment (stamp : Stamp)
  | wording (words : String)
deriving DecidableEq, Repr

/-- The number that digits spell behind a number, if there are digits only. -/
def indexFrom (number : Nat) : List Char -> Except Fault (Option Nat)
  | [] => .ok (some number)
  | c :: rest =>
    match Text.digitValue? c with
    | none => .ok none
    | some digit =>
      if number * 10 + digit < 2 ^ 63 then indexFrom (number * 10 + digit) rest
      else .error .longNumber

/-- The number that a name or an item spells, if it spells one. -/
def index? (name : List Char) : Except Fault (Option Nat) :=
  if name.isEmpty then .ok none else indexFrom 0 name

/-- An attribute of a value. -/
def Value.attribute (value : Value) (name : String) : Except Fault Value :=
  let found : Option Value := match value with
    | .time now => if name = "datetime" then some (.moment now) else none
    | .moment stamp => (stamp.number? name).map fun number => .wording (toString number)
    | .wording _ => none
  match found with
  | some value => .ok value
  | none => .error (.misuse .lacking)

/-- Go along attributes and items, at most `count` of them. No value has items. -/
def Value.along (value : Value) : Nat -> List Char -> Except Fault Value
  | 0, _ | _, [] => .ok value
  | count + 1, '.' :: rest => do
    let (name, rest) := rest.span fun c => c != '.' && c != '['
    if name.isEmpty then throw .emptyAttribute
    (← value.attribute (String.ofList name)).along count rest
  | _ + 1, '[' :: rest => do
    let (name, rest) := rest.span (· != ']')
    if rest.isEmpty then throw .openItem
    let _ ← index? name
    throw (if name.isEmpty then .emptyAttribute else .misuse .unsupported)
  | _ + 1, _ :: _ => .error .afterItem

/-- What the name of a field stands for. -/
def named (now : Stamp) (name : List Char) : Except Fault Value := do
  let (first, rest) := name.span fun c => c != '.' && c != '['
  let index ← index? first
  if first.isEmpty || index.isSome then throw .positional
  if first == "time".toList then (Value.time now).along rest.length rest
  else throw (.misuse (.missingMember (String.ofList first)))

/-- A value after a conversion. -/
def Value.converted (value : Value) : Option Char -> Except Fault Value
  | none => .ok value
  | some letter =>
    if letter == 'r' || letter == 's' || letter == 'a' then
      match value with
      | .time _ | .moment _ => .ok (.wording "time")
      | .wording words => .ok (.wording words)
    else .error (.unknownConversion letter)

/-- The form of a moment unless another one is asked for. -/
def usualForm : String := "YYYY-MM-DD_HH-mm-ss_SSSSSS"

/-- Whether a form asks for more digits of the second than there are. -/
def asksTooMuch (form : List Char) : Bool :=
  !form.contains '%'
    && (form.splitBy (· == ·)).any fun run => run.head? == some 'S' && 6 < run.length

/-- A value in a form. -/
def Value.inForm (value : Value) (form : List Char) : Except Fault (List Char) :=
  match value with
  | .time stamp | .moment stamp =>
    if form.isEmpty then .ok (stamp.written usualForm).toList
    else if asksTooMuch form then .error .tooFine
    else .ok (stamp.written (String.ofList form)).toList
  | .wording words => .ok words.toList

/-- Fill in a template whose forms may be templates themselves, `depth` levels deep. -/
def fillWithin (now : Stamp) : Nat -> List Char -> Except Fault (List Char)
  | 0, _ => .error .nestedTooDeep
  | depth + 1, text => do
    let (pieces, fault) := pieces text
    let filled ← pieces.mapM fun
      | .character c => pure [c]
      | .field field => do
        let value ← (← named now field.name).converted field.conversion
        let form ← if field.form.contains '\x7b' then fillWithin now depth field.form
          else pure field.form
        value.inForm form
    match fault with
    | some fault => throw fault
    | none => pure filled.flatten

/-- Fill in a template. A template that cannot be read is not filled in at all. -/
def fill (now : Stamp) (template : String) : Except Fault String :=
  match (pieces template.toList).2 with
  | some fault => .error fault
  | none => String.ofList <$> fillWithin now 2 template.toList

end LintClient.Log.Template
