import LintClient.Json.Line

/-!
# The grammar of the line protocol's JSON

Which texts are JSON, and which values they denote, said without a reader. The rules are those of
RFC 8259, with three more names for the special numbers, with escapes that spell characters only,
and with limits: values are nested up to a depth, and numbers may be limited in their digits before
the point, of which a minus sign may take one.
-/

namespace LintClient.Json.Line

/-- What may stand between two tokens. -/
def Gap (text : List Char) : Prop :=
  ∀ c ∈ text, isGap c = true

/-! ## Strings -/

/-- A piece of a string, and the character that it spells. -/
inductive Spells : List Char → Char → Prop where
  | plain {c : Char} (printable : 0x20 ≤ c.toNat) (notQuote : c ≠ '"') (notBackslash : c ≠ '\\') :
      Spells [c] c
  | short {letter c : Char} (known : simpleEscape? letter = some c) : Spells ['\\', letter] c
  /-- Four hexadecimal digits spell the character with their number. -/
  | unit {first second third fourth c : Char}
      (spelt : codeUnit? first second third fourth = some c.toNat) :
      Spells ['\\', 'u', first, second, third, fourth] c
  /-- Two surrogates spell a character outside the basic plane. -/
  | pair {first second third fourth fifth sixth seventh eighth c : Char} {high low : Nat}
      (highSpelt : codeUnit? first second third fourth = some high)
      (lowSpelt : codeUnit? fifth sixth seventh eighth = some low)
      (isHigh : 0xD800 ≤ high ∧ high ≤ 0xDBFF) (isLow : 0xDC00 ≤ low ∧ low ≤ 0xDFFF)
      (joined : c.toNat = 0x10000 + (high - 0xD800) * 0x400 + (low - 0xDC00)) :
      Spells ['\\', 'u', first, second, third, fourth, '\\', 'u', fifth, sixth, seventh, eighth] c

/-- The inside of a string, and its characters. -/
inductive StringText : List Char → List Char → Prop where
  | nil : StringText [] []
  | cons {piece rest : List Char} {c : Char} {chars : List Char} (spells : Spells piece c)
      (others : StringText rest chars) : StringText (piece ++ rest) (c :: chars)

/-! ## Numbers -/

/-- One or more digits. -/
structure Digits (text : List Char) : Prop where
  nonempty : text ≠ []
  digits : ∀ c ∈ text, Text.isAsciiDigit c = true

/-- The digits before the point. Only the number zero starts with a zero, and there is not room for
any number of digits. -/
structure WholeDigits (room : Option Nat) (text : List Char) : Prop extends Digits text where
  plain : ∀ rest, text = '0' :: rest → rest = []
  within : ∀ limit ∈ room, text.length ≤ limit

/-- A sign takes no more than its own place, so that the limit on digits holds with it, too. -/
theorem WholeDigits.length_le {limits : Limits} {negative : Bool} {text : List Char}
    (whole : WholeDigits (limits.room negative) text) :
    ∀ limit ∈ limits.digits, text.length ≤ limit := by
  intro limit limited
  have room := whole.within _ (Option.mem_map_of_mem _ limited)
  exact Nat.le_trans room (Nat.sub_le _ _)

/-- A fraction, which may be absent, and its digits. -/
inductive FractionText : List Char → Option (List Char) → Prop where
  | absent : FractionText [] none
  | point {digits : List Char} (isDigits : Digits digits) :
    FractionText ('.' :: digits) (some digits)

/-- An exponent, which may be absent, and its value. -/
inductive ExponentText : List Char → Option Int → Prop where
  | absent : ExponentText [] none
  | mark {mark : Char} {sign digits : List Char} (isMark : mark = 'e' ∨ mark = 'E')
      (isSign : sign = [] ∨ sign = ['+'] ∨ sign = ['-']) (isDigits : Digits digits) :
      ExponentText (mark :: (sign ++ digits)) (some (exponentOf (sign = ['-']) digits))

/-- A number, and its parts. -/
inductive NumberText (limits : Limits) : List Char → Numeral → Prop where
  | parts (negative : Bool) {whole fractionText exponentText : List Char}
      {fraction : Option (List Char)} {exponent : Option Int}
      (digits : WholeDigits (limits.room negative) whole)
      (isFraction : FractionText fractionText fraction)
      (isExponent : ExponentText exponentText exponent) :
      NumberText limits
        ((if negative then ['-'] else []) ++ (whole ++ (fractionText ++ exponentText)))
        ⟨negative, whole, fraction, exponent⟩

/-! ## Values -/

/-- The values that are names. -/
def names : List (String × Json) :=
  [("null", .null), ("true", .bool true), ("false", .bool false), ("NaN", .float .nan),
    ("Infinity", .float (.infinite false)), ("-Infinity", .float (.infinite true))]

/-- A value in a list or behind a key, with the gaps around it. -/
structure Item where
  before : List Char
  text : List Char
  after : List Char
  value : Json

/-- The text of an item with its gaps. -/
def Item.written (item : Item) : List Char :=
  item.before ++ (item.text ++ item.after)

/-- A member of an object, with the gaps around its key. -/
structure Member where
  before : List Char
  keyText : List Char
  after : List Char
  key : List Char
  item : Item

/-- The text of a member with its gaps. -/
def Member.written (member : Member) : List Char :=
  member.before ++ ('"' :: (member.keyText ++ '"' :: (member.after ++ ':' :: member.item.written)))

/-- The key and the value of a member. -/
def Member.pair (member : Member) : String × Json :=
  (String.ofList member.key, member.item.value)

/-- Texts with commas between them. -/
def commaJoined : List (List Char) → List Char
  | [] => []
  | [text] => text
  | text :: next :: texts => text ++ ',' :: commaJoined (next :: texts)

/-- A value inside some containers, and what it denotes. -/
inductive ValueText (limits : Limits) : Nat → List Char → Json → Prop where
  | name {enclosing : Nat} {word : String} {value : Json} (within : enclosing ≤ limits.depth)
      (known : (word, value) ∈ names) : ValueText limits enclosing word.toList value
  | number {enclosing : Nat} {text : List Char} {numeral : Numeral}
      (within : enclosing ≤ limits.depth) (isNumber : NumberText limits text numeral) :
      ValueText limits enclosing text (ofNumeral numeral)
  | string {enclosing : Nat} {text chars : List Char} (within : enclosing ≤ limits.depth)
      (inside : StringText text chars) :
      ValueText limits enclosing ('"' :: (text ++ ['"'])) (.str (String.ofList chars))
  | emptyList {enclosing : Nat} {gap : List Char} (within : enclosing ≤ limits.depth)
      (isGap : Gap gap) : ValueText limits enclosing ('[' :: (gap ++ [']'])) (.list [])
  | list {enclosing : Nat} {items : List Item} (within : enclosing ≤ limits.depth)
      (nonempty : items ≠ []) (gaps : ∀ item ∈ items, Gap item.before ∧ Gap item.after)
      (values : ∀ item ∈ items, ValueText limits (enclosing + 1) item.text item.value) :
      ValueText limits enclosing ('[' :: (commaJoined (items.map Item.written) ++ [']']))
        (.list (items.map Item.value))
  | emptyObject {enclosing : Nat} {gap : List Char} (within : enclosing ≤ limits.depth)
      (isGap : Gap gap) : ValueText limits enclosing ('\x7b' :: (gap ++ ['\x7d'])) (.object [])
  | object {enclosing : Nat} {members : List Member} (within : enclosing ≤ limits.depth)
      (nonempty : members ≠ [])
      (keys : ∀ member ∈ members,
        Gap member.before ∧ StringText member.keyText member.key ∧ Gap member.after)
      (gaps : ∀ member ∈ members, Gap member.item.before ∧ Gap member.item.after)
      (values : ∀ member ∈ members,
        ValueText limits (enclosing + 1) member.item.text member.item.value) :
      ValueText limits enclosing
        ('\x7b' :: (commaJoined (members.map Member.written) ++ ['\x7d']))
        (.object (membersOf (members.map Member.pair)))

/-- An item of a list whose values are inside so many containers. -/
structure ItemText (limits : Limits) (enclosing : Nat) (item : Item) : Prop where
  before : Gap item.before
  after : Gap item.after
  value : ValueText limits enclosing item.text item.value

/-- A member of an object whose values are inside so many containers. -/
structure MemberText (limits : Limits) (enclosing : Nat) (member : Member) : Prop where
  before : Gap member.before
  key : StringText member.keyText member.key
  after : Gap member.after
  item : ItemText limits enclosing member.item

/-- A whole text with one value and gaps around it. -/
def DocumentText (limits : Limits) (text : List Char) (value : Json) : Prop :=
  ∃ before inner after, text = before ++ (inner ++ after) ∧ Gap before ∧ Gap after ∧
    ValueText limits 0 inner value

/-! ## Wider limits -/

/-- Whatever the limits leave room for, so do the wider ones. -/
structure Limits.Within (limits wider : Limits) : Prop where
  depth : limits.depth ≤ wider.depth
  digits : ∀ negative, ∀ most ∈ wider.room negative, ∃ fewer ∈ limits.room negative, fewer ≤ most

section Wider

variable {limits wider : Limits} (within : limits.Within wider)

include within

/-- Digits for which there is room have it within wider limits. -/
theorem WholeDigits.widen {negative : Bool} {text : List Char}
    (whole : WholeDigits (limits.room negative) text) : WholeDigits (wider.room negative) text := by
  refine ⟨whole.toDigits, whole.plain, fun most known => ?_⟩
  obtain ⟨fewer, limited, less⟩ := within.digits negative most known
  exact Nat.le_trans (whole.within fewer limited) less

/-- A number stays one within wider limits. -/
theorem NumberText.widen {text : List Char} {numeral : Numeral}
    (isNumber : NumberText limits text numeral) : NumberText wider text numeral := by
  obtain ⟨negative, digits, isFraction, isExponent⟩ := isNumber
  exact .parts negative (digits.widen within) isFraction isExponent

/-- What a text denotes it denotes within wider limits. -/
theorem ValueText.widen {enclosing : Nat} {text : List Char} {value : Json}
    (isValue : ValueText limits enclosing text value) : ValueText wider enclosing text value := by
  induction isValue with
  | name shallow known => exact .name (Nat.le_trans shallow within.depth) known
  | number shallow isNumber =>
      exact .number (Nat.le_trans shallow within.depth) (isNumber.widen within)
  | string shallow inside => exact .string (Nat.le_trans shallow within.depth) inside
  | emptyList shallow gapped => exact .emptyList (Nat.le_trans shallow within.depth) gapped
  | list shallow nonempty gaps values inductionHypothesis =>
      exact .list (Nat.le_trans shallow within.depth) nonempty gaps inductionHypothesis
  | emptyObject shallow gapped => exact .emptyObject (Nat.le_trans shallow within.depth) gapped
  | object shallow nonempty keys gaps values inductionHypothesis =>
      exact .object (Nat.le_trans shallow within.depth) nonempty keys gaps inductionHypothesis

/-- A whole text stays one within wider limits. -/
theorem DocumentText.widen {text : List Char} {value : Json}
    (isDocument : DocumentText limits text value) : DocumentText wider text value := by
  obtain ⟨before, inner, after, split, ahead, behind, isValue⟩ := isDocument
  exact ⟨before, inner, after, split, ahead, behind, isValue.widen within⟩

end Wider

end LintClient.Json.Line
