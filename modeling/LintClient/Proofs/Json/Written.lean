import LintClient.Json.Access
import LintClient.Proofs.Json.Members
import LintClient.Proofs.Json.Written.Numbers

/-!
# Written values

What is written of a value, in any style, is a text of the grammar that denotes the value, as long
as the value repeats no key and stays within the limits of the reader
(`Readable.valueText_written`). What is written on one line holds no control character, so it stays
on its line.
-/

namespace LintClient.Json

open Line (Digits ExponentText FractionText NumberText Spells StringText ValueText Item Member
  Limits Gap commaJoined)

/-! ## Escapes -/

/-- A hexadecimal digit has the value that it is written for. -/
theorem hexDigit?_digitChar {digit : Nat} (small : digit < 16) :
    hexDigit? (Nat.digitChar digit) = some digit := by
  have all : ∀ digit < 16, hexDigit? (Nat.digitChar digit) = some digit := by decide
  exact all digit small

/-- The last digit of a padded number stands behind those of its sixteenth. -/
theorem hexDigits_succ {width : Nat} (wide : 0 < width) (number : Nat) :
    Text.hexDigits (width + 1) number =
      Text.hexDigits width (number / 16) ++ [Nat.digitChar (number % 16)] := by
  simp only [Text.hexDigits]
  rw [Nat.toDigits_eq_if (by decide)]
  split
  · next small =>
    obtain ⟨width, rfl⟩ := Nat.exists_eq_succ_of_ne_zero (Nat.ne_of_gt wide)
    rw [Nat.div_eq_of_lt small, Nat.mod_eq_of_lt small, Nat.toDigits_zero]
    simp [List.replicate_succ']
  · simp

/-- Four hexadecimal digits are written for a unit. -/
theorem hexDigits_four {unit : Nat} (small : unit < 0x10000) : Text.hexDigits 4 unit =
    [Nat.digitChar (unit / 0x1000), Nat.digitChar (unit / 0x100 % 16),
      Nat.digitChar (unit / 0x10 % 16), Nat.digitChar (unit % 16)] := by
  have first : Text.hexDigits 1 (unit / 0x1000) = [Nat.digitChar (unit / 0x1000)] := by
    rw [Text.hexDigits, Nat.toDigits_of_lt_base (by omega)]
    rfl
  have hundreds : unit / 16 / 16 = unit / 0x100 := Nat.div_div_eq_div_mul ..
  have thousands : unit / 0x100 / 16 = unit / 0x1000 := Nat.div_div_eq_div_mul ..
  rw [hexDigits_succ (by decide), hexDigits_succ (by decide), hexDigits_succ (by decide),
    hundreds, thousands, first]
  rfl

/-- The digits that are written for a unit spell it. -/
theorem codeUnit?_digits {unit : Nat} (small : unit < 0x10000) :
    codeUnit? (Nat.digitChar (unit / 0x1000)) (Nat.digitChar (unit / 0x100 % 16))
      (Nat.digitChar (unit / 0x10 % 16)) (Nat.digitChar (unit % 16)) = some unit := by
  have joined :
      ((unit / 0x1000 * 16 + unit / 0x100 % 16) * 16 + unit / 0x10 % 16) * 16 + unit % 16 =
        unit := by
    omega
  simp [codeUnit?, hexDigit?_digitChar, show unit / 0x1000 < 16 by omega, Nat.mod_lt, joined]

/-- The escape of a character spells it. -/
theorem spells_charEscape (c : Char) : Spells (charEscape c) c := by
  have valid : c.toNat.isValidChar := c.valid
  unfold Nat.isValidChar at valid
  unfold charEscape
  split
  · next small =>
    rw [unitEscape, hexDigits_four small]
    exact .unit (codeUnit?_digits small)
  · next large =>
    have high : 0xD800 + (c.toNat - 0x10000) / 0x400 < 0x10000 := by omega
    have low : 0xDC00 + (c.toNat - 0x10000) % 0x400 < 0x10000 := by omega
    simp only [unitEscape, hexDigits_four high, hexDigits_four low]
    refine .pair (codeUnit?_digits high) (codeUnit?_digits low) ⟨?_, ?_⟩ ⟨?_, ?_⟩ ?_ <;> omega

/-- What is written for a character in a string spells it. -/
theorem spells_writtenChar (asciiOnly : Bool) (c : Char) : Spells (writtenChar asciiOnly c) c := by
  unfold writtenChar
  split
  · next same => exact .short (by rw [same]; rfl)
  split
  · next same => exact .short (by rw [same]; rfl)
  split
  · next same => exact .short (by rw [same]; rfl)
  split
  · next same => exact .short (by rw [same]; rfl)
  split
  · next same => exact .short (by rw [same]; rfl)
  split
  · next same => exact .short (by rw [same]; rfl)
  split
  · next same => exact .short (by rw [same]; rfl)
  split
  · exact spells_charEscape c
  · next notQuote notBackslash _ _ _ _ _ printable =>
    simp only [Bool.or_eq_true, decide_eq_true_eq, not_or, Nat.not_lt] at printable
    exact .plain printable.1 notQuote notBackslash

/-- What is written for the characters of a string spells them. -/
theorem stringText_flatMap (asciiOnly : Bool) (chars : List Char) :
    StringText (chars.flatMap (writtenChar asciiOnly)) chars := by
  induction chars with
  | nil => exact .nil
  | cons c chars inductionHypothesis =>
      exact .cons (spells_writtenChar asciiOnly c) inductionHypothesis

/-! ## Control characters -/

/-- The text has no control character, so that it stays on its line. -/
def OnLine (text : List Char) : Prop :=
  ∀ c ∈ text, 0x20 ≤ c.toNat

instance (text : List Char) : Decidable (OnLine text) :=
  List.decidableBAll (fun c : Char => 0x20 ≤ c.toNat) text

/-- Two texts on one line are on one line together. -/
theorem OnLine.append {first second : List Char} (isFirst : OnLine first)
    (isSecond : OnLine second) : OnLine (first ++ second) :=
  List.forall_mem_append.mpr ⟨isFirst, isSecond⟩

/-- A character that is known to a table without control characters is none. -/
theorem printable_of_known {α : Type} {table : Char → Option α}
    (unknown : ∀ code < 0x20, (table (Char.ofNat code)).isNone) {c : Char} {value : α}
    (known : table c = some value) : 0x20 ≤ c.toNat := by
  by_contra control
  have none := unknown c.toNat (Nat.lt_of_not_le control)
  rw [Char.ofNat_toNat, known] at none
  cases none

/-- The pieces of strings have no control characters. -/
theorem onLine_of_spells {piece : List Char} {c : Char} (spells : Spells piece c) :
    OnLine piece := by
  have hex {digit : Char} {value : Nat} (known : hexDigit? digit = some value) :
      0x20 ≤ digit.toNat :=
    printable_of_known (by decide) known
  cases spells with
  | plain printable => simpa [OnLine] using printable
  | short known => simp [OnLine, printable_of_known (by decide) known]
  | unit spelt =>
      simp only [codeUnit?, bind, Option.bind_eq_some_iff, pure, Option.some.injEq] at spelt
      obtain ⟨_, first, _, second, _, third, _, fourth, -⟩ := spelt
      simp [OnLine, hex first, hex second, hex third, hex fourth]
  | pair highSpelt lowSpelt =>
      simp only [codeUnit?, bind, Option.bind_eq_some_iff, pure,
        Option.some.injEq] at highSpelt lowSpelt
      obtain ⟨_, first, _, second, _, third, _, fourth, -⟩ := highSpelt
      obtain ⟨_, fifth, _, sixth, _, seventh, _, eighth, -⟩ := lowSpelt
      simp [OnLine, hex first, hex second, hex third, hex fourth, hex fifth, hex sixth, hex seventh,
        hex eighth]

/-- The insides of strings have no control characters. -/
theorem onLine_of_stringText {text chars : List Char} (inside : StringText text chars) :
    OnLine text := by
  induction inside with
  | nil => exact nofun
  | cons spells _ inductionHypothesis => exact (onLine_of_spells spells).append inductionHypothesis

/-- Digits are on one line. -/
theorem onLine_of_digits {text : List Char} (isDigits : Digits text) : OnLine text := by
  intro c there
  by_contra control
  have none : ∀ code < 0x20, Text.isAsciiDigit (Char.ofNat code) = false := by decide
  have other := none c.toNat (Nat.lt_of_not_le control)
  rw [Char.ofNat_toNat, isDigits.digits c there] at other
  cases other

/-- A fraction is on one line. -/
theorem onLine_of_fractionText {text : List Char} {fraction : Option (List Char)}
    (isFraction : FractionText text fraction) : OnLine text := by
  have point : OnLine ['.'] := by decide
  cases isFraction with
  | absent => exact nofun
  | point isDigits => exact point.append (onLine_of_digits isDigits)

/-- An exponent is on one line. -/
theorem onLine_of_exponentText {text : List Char} {exponent : Option Int}
    (isExponent : ExponentText text exponent) : OnLine text := by
  cases isExponent with
  | absent => exact nofun
  | @mark mark sign digits isMark isSign isDigits =>
      have ofMark : OnLine [mark] := by rcases isMark with rfl | rfl <;> decide
      have ofSign : OnLine sign := by rcases isSign with rfl | rfl | rfl <;> decide
      exact ofMark.append (ofSign.append (onLine_of_digits isDigits))

/-- Numbers have no control characters. -/
theorem onLine_of_numberText {limits : Limits} {text : List Char} {numeral : Numeral}
    (isNumber : NumberText limits text numeral) : OnLine text := by
  obtain ⟨negative, whole, isFraction, isExponent⟩ := isNumber
  have sign : OnLine (if negative then ['-'] else []) := by
    cases negative <;> decide
  exact sign.append ((onLine_of_digits whole.toDigits).append
    ((onLine_of_fractionText isFraction).append (onLine_of_exponentText isExponent)))

/-- The written form of a floating-point number has no control characters. -/
theorem onLine_writtenFloat (value : Binary64) : OnLine (writtenFloat value) := by
  cases value with
  | nan => decide
  | infinite negative => cases negative <;> decide
  | finite negative significand exponent canonical =>
      have unlimited :
          ∀ limit ∈ Limits.room ⟨0, none, false⟩ negative, longestWhole ≤ limit := nofun
      obtain ⟨numeral, isNumber, -⟩ := numberText_text negative canonical unlimited
      exact onLine_of_numberText isNumber

/-! ## Values -/

/-- A value that a reader within the limits takes back from its written form: no key in it is
repeated. -/
inductive Readable (limits : Limits) : Nat → Json → Prop where
  | null {enclosing : Nat} (within : enclosing ≤ limits.depth) : Readable limits enclosing .null
  | bool {enclosing : Nat} (within : enclosing ≤ limits.depth) (value : Bool) :
      Readable limits enclosing (.bool value)
  | int {enclosing : Nat} (within : enclosing ≤ limits.depth) {value : Int}
      (short : ∀ limit ∈ limits.room (decide (value < 0)),
        (Nat.toDigits 10 value.natAbs).length ≤ limit) :
      Readable limits enclosing (.int value)
  | float {enclosing : Nat} (within : enclosing ≤ limits.depth)
      (room : ∀ negative, ∀ limit ∈ limits.room negative, longestWhole ≤ limit) (value : Binary64) :
      Readable limits enclosing (.float value)
  | str {enclosing : Nat} (within : enclosing ≤ limits.depth) (text : String) :
      Readable limits enclosing (.str text)
  | list {enclosing : Nat} (within : enclosing ≤ limits.depth) {items : List Json}
      (readable : ∀ item ∈ items, Readable limits (enclosing + 1) item) :
      Readable limits enclosing (.list items)
  | object {enclosing : Nat} (within : enclosing ≤ limits.depth) {members : List (String × Json)}
      (different : (members.map Prod.fst).Nodup)
      (readable : ∀ member ∈ members, Readable limits (enclosing + 1) member.2) :
      Readable limits enclosing (.object members)

section Containers

variable (style : Style) (level : Nat)

/-- The gap behind a comma, in front of an item at the given level. -/
def gapBetween : List Char :=
  match style.indent with
  | none => [' ']
  | some _ => lineBreak style level

/-- A separator is a comma with a gap behind it. -/
theorem separator_eq : separator style level = ',' :: gapBetween style level := by
  unfold separator gapBetween
  cases style.indent <;> rfl

/-- A line break is a gap. -/
theorem gap_lineBreak : Gap (lineBreak style level) := by
  unfold lineBreak
  split
  · exact Line.gap_nil
  · next width _ =>
    intro c there
    rcases List.mem_cons.mp there with rfl | spaces
    · rfl
    · rw [(List.mem_replicate.mp spaces).2]
      rfl

/-- What stands behind a comma is a gap. -/
theorem gap_gapBetween : Gap (gapBetween style level) := by
  unfold gapBetween
  split
  · simp [Gap, isGap]
  · exact gap_lineBreak style level

/-- The items of a list at the given level as they are written: the first behind a gap of its own,
the last in front of the break before the bracket. -/
def itemsWritten (before : List Char) (item : Json) : List Json → List Item
  | [] => [⟨before, written style (level + 1) item, lineBreak style level, item⟩]
  | next :: items =>
    ⟨before, written style (level + 1) item, [], item⟩
      :: itemsWritten (gapBetween style (level + 1)) next items

/-- The members of an object at the given level as they are written: the first behind a gap of its
own, the last in front of the break before the brace. -/
def membersWritten (before : List Char) (member : String × Json) :
    List (String × Json) → List Member
  | [] =>
    [⟨before, member.1.toList.flatMap (writtenChar style.asciiOnly), [], member.1.toList,
      ⟨[' '], written style (level + 1) member.2, lineBreak style level, member.2⟩⟩]
  | next :: members =>
    ⟨before, member.1.toList.flatMap (writtenChar style.asciiOnly), [], member.1.toList,
      ⟨[' '], written style (level + 1) member.2, [], member.2⟩⟩
      :: membersWritten (gapBetween style (level + 1)) next members

/-- There is at least one item. -/
theorem itemsWritten_ne_nil (before : List Char) (item : Json) (items : List Json) :
    itemsWritten style level before item items ≠ [] := by
  cases items <;> exact List.cons_ne_nil _ _

/-- There is at least one member. -/
theorem membersWritten_ne_nil (before : List Char) (member : String × Json)
    (members : List (String × Json)) : membersWritten style level before member members ≠ [] := by
  cases members <;> exact List.cons_ne_nil _ _

/-- The written items, joined by commas, are the inside of the written list. -/
theorem commaJoined_itemsWritten (before : List Char) (item : Json) (items : List Json) :
    commaJoined ((itemsWritten style level before item items).map Item.written) =
      before ++ (written style (level + 1) item ++
        (writtenItems style (level + 1) items ++ lineBreak style level)) := by
  induction items generalizing before item with
  | nil => simp [itemsWritten, commaJoined, Item.written, writtenItems]
  | cons next items inductionHypothesis =>
      rw [itemsWritten, List.map_cons,
        Line.commaJoined_cons _ (by simpa using itemsWritten_ne_nil style level _ next items),
        inductionHypothesis]
      simp [Item.written, writtenItems, separator_eq]

/-- The written members, joined by commas, are the inside of the written object. -/
theorem commaJoined_membersWritten (before : List Char) (member : String × Json)
    (members : List (String × Json)) :
    commaJoined ((membersWritten style level before member members).map Member.written) =
      before ++ (writtenString style.asciiOnly member.1 ++ (':' :: ' ' ::
        (written style (level + 1) member.2 ++
          (writtenMembers style (level + 1) members ++ lineBreak style level)))) := by
  induction members generalizing before member with
  | nil =>
      simp [membersWritten, commaJoined, Member.written, Item.written, writtenString,
        writtenMembers]
  | cons next members inductionHypothesis =>
      rw [membersWritten, List.map_cons,
        Line.commaJoined_cons _ (by simpa using membersWritten_ne_nil style level _ next members),
        inductionHypothesis]
      simp [Member.written, Item.written, writtenString, writtenMembers, separator_eq]

/-- The written items stand for the items of the list, in order. -/
theorem values_itemsWritten (before : List Char) (item : Json) (items : List Json) :
    (itemsWritten style level before item items).map Item.value = item :: items := by
  induction items generalizing before item with
  | nil => rfl
  | cons next items inductionHypothesis => rw [itemsWritten, List.map_cons, inductionHypothesis]

/-- The written members stand for the members of the object, in order. -/
theorem pairs_membersWritten (before : List Char) (member : String × Json)
    (members : List (String × Json)) :
    (membersWritten style level before member members).map Member.pair = member :: members := by
  induction members generalizing before member with
  | nil => simp [membersWritten, Member.pair]
  | cons next members inductionHypothesis =>
      rw [membersWritten, List.map_cons, inductionHypothesis]
      simp [Member.pair]

/-- The items that are written are items if their values are written as what they are. -/
theorem itemText_itemsWritten {limits : Limits} {enclosing : Nat} {before : List Char} {item : Json}
    {items : List Json} (gapped : Gap before)
    (values : ∀ other ∈ item :: items,
      ValueText limits enclosing (written style (level + 1) other) other) :
    ∀ other ∈ itemsWritten style level before item items, Line.ItemText limits enclosing other := by
  induction items generalizing before item with
  | nil =>
      rw [itemsWritten, List.forall_mem_singleton]
      exact ⟨gapped, gap_lineBreak style level, values item List.mem_cons_self⟩
  | cons next items inductionHypothesis =>
      obtain ⟨first, others⟩ := List.forall_mem_cons.mp values
      rw [itemsWritten, List.forall_mem_cons]
      exact ⟨⟨gapped, Line.gap_nil, first⟩,
        inductionHypothesis (gap_gapBetween style (level + 1)) others⟩

/-- The members that are written are members if their values are written as what they are. -/
theorem memberText_membersWritten {limits : Limits} {enclosing : Nat} {before : List Char}
    {member : String × Json} {members : List (String × Json)} (gapped : Gap before)
    (values : ∀ other ∈ member :: members,
      ValueText limits enclosing (written style (level + 1) other.2) other.2) :
    ∀ other ∈ membersWritten style level before member members,
      Line.MemberText limits enclosing other := by
  have space : Gap [' '] := by simp [Gap, isGap]
  induction members generalizing before member with
  | nil =>
      rw [membersWritten, List.forall_mem_singleton]
      exact ⟨gapped, stringText_flatMap style.asciiOnly _, Line.gap_nil, space,
        gap_lineBreak style level, values member List.mem_cons_self⟩
  | cons next members inductionHypothesis =>
      obtain ⟨first, others⟩ := List.forall_mem_cons.mp values
      rw [membersWritten, List.forall_mem_cons]
      exact ⟨⟨gapped, stringText_flatMap style.asciiOnly _, Line.gap_nil, space, Line.gap_nil,
        first⟩, inductionHypothesis (gap_gapBetween style (level + 1)) others⟩

end Containers

/-- What is written of a floating-point number denotes it: the numbers that are not finite have
names. -/
theorem valueText_writtenFloat {limits : Limits} {enclosing : Nat}
    (within : enclosing ≤ limits.depth)
    (room : ∀ negative, ∀ limit ∈ limits.room negative, longestWhole ≤ limit) (value : Binary64) :
    ValueText limits enclosing (writtenFloat value) (.float value) := by
  cases value with
  | nan =>
      have known : ("NaN", Json.float .nan) ∈ Line.names := by simp [Line.names]
      exact .name within known
  | infinite negative =>
      have known : (if negative then "-Infinity" else "Infinity", Json.float (.infinite negative)) ∈
          Line.names := by
        cases negative <;> simp [Line.names]
      exact .name within known
  | finite negative significand exponent canonical =>
      obtain ⟨numeral, isNumber, same⟩ := numberText_text negative canonical (room negative)
      have isValue := ValueText.number within isNumber
      rwa [same] at isValue

/-- What is written of a value denotes it. -/
theorem Readable.valueText_written {limits : Limits} {enclosing : Nat} {value : Json}
    (readable : Readable limits enclosing value) (style : Style) (level : Nat) :
    ValueText limits enclosing (written style level value) value := by
  induction readable generalizing level with
  | null within =>
      have known : ("null", Json.null) ∈ Line.names := by simp [Line.names]
      exact .name within known
  | bool within value =>
      have known : (if value then "true" else "false", Json.bool value) ∈ Line.names := by
        cases value <;> simp [Line.names]
      exact .name within known
  | @int enclosing within value short =>
      obtain ⟨numeral, isNumber, same⟩ := numberText_toString value short
      have isValue := ValueText.number within isNumber
      rwa [same] at isValue
  | float within room value => exact valueText_writtenFloat within room value
  | str within text =>
      have isValue := ValueText.string within (stringText_flatMap style.asciiOnly text.toList)
      rwa [String.ofList_toList] at isValue
  | @list enclosing within items readable inductionHypothesis =>
      cases items with
      | nil => exact .emptyList within Line.gap_nil
      | cons item items =>
          have areItems := itemText_itemsWritten style level
            (gap_lineBreak style (level + 1))
            fun other there => inductionHypothesis other there (level + 1)
          have isValue := ValueText.list within (itemsWritten_ne_nil style level _ item items)
            (fun other there => ⟨(areItems other there).before, (areItems other there).after⟩)
            (fun other there => (areItems other there).value)
          rw [commaJoined_itemsWritten, values_itemsWritten] at isValue
          simpa [written] using isValue
  | @object enclosing within members different readable inductionHypothesis =>
      cases members with
      | nil => exact .emptyObject within Line.gap_nil
      | cons member members =>
          have areMembers := memberText_membersWritten style level
            (gap_lineBreak style (level + 1))
            fun other there => inductionHypothesis other there (level + 1)
          have isValue := ValueText.object within
            (membersWritten_ne_nil style level _ member members)
            (fun other there => ⟨(areMembers other there).before, (areMembers other there).key,
              (areMembers other there).after⟩)
            (fun other there => ⟨(areMembers other there).item.before,
              (areMembers other there).item.after⟩)
            (fun other there => (areMembers other there).item.value)
          rw [commaJoined_membersWritten, pairs_membersWritten, membersOf_of_nodup different]
            at isValue
          simpa [written] using isValue

/-- A written string is on one line. -/
theorem onLine_writtenString (asciiOnly : Bool) (text : String) :
    OnLine (writtenString asciiOnly text) := by
  have inside := onLine_of_stringText (stringText_flatMap asciiOnly text.toList)
  have quote : OnLine ['"'] := by decide
  exact (quote.append inside).append quote

/-- The items of a list are on one line if each of them is. -/
theorem onLine_writtenItems {asciiOnly : Bool} {level : Nat} {items : List Json}
    (onLine : ∀ item ∈ items, OnLine (written ⟨asciiOnly, none⟩ level item)) :
    OnLine (writtenItems ⟨asciiOnly, none⟩ level items) := by
  induction items with
  | nil => exact nofun
  | cons item items inductionHypothesis =>
      obtain ⟨first, others⟩ := List.forall_mem_cons.mp onLine
      have comma : OnLine [',', ' '] := by decide
      exact (comma.append first).append (inductionHypothesis others)

/-- The members of an object are on one line if each of them is. -/
theorem onLine_writtenMembers {asciiOnly : Bool} {level : Nat} {members : List (String × Json)}
    (onLine : ∀ member ∈ members, OnLine (written ⟨asciiOnly, none⟩ level member.2)) :
    OnLine (writtenMembers ⟨asciiOnly, none⟩ level members) := by
  induction members with
  | nil => exact nofun
  | cons member members inductionHypothesis =>
      obtain ⟨first, others⟩ := List.forall_mem_cons.mp onLine
      have comma : OnLine [',', ' '] := by decide
      have colon : OnLine [':', ' '] := by decide
      exact (((comma.append (onLine_writtenString asciiOnly member.1)).append colon).append
        first).append (inductionHypothesis others)

/-- What is written of a value stays on its line. -/
theorem Readable.onLine_written {limits : Limits} {enclosing : Nat} {value : Json}
    (readable : Readable limits enclosing value) (asciiOnly : Bool) (level : Nat) :
    OnLine (written ⟨asciiOnly, none⟩ level value) := by
  induction readable generalizing level with
  | null =>
      have name : OnLine "null".toList := by decide
      exact name
  | bool within value =>
      have name : OnLine (if value then "true" else "false").toList := by
        cases value <;> decide
      exact name
  | @int enclosing within value short =>
      have sign : OnLine (if decide (value < 0) then ['-'] else []) := by
        split <;> decide
      rw [written, toList_toString]
      exact sign.append (onLine_of_digits (digits_toDigits _))
  | float within room value => exact onLine_writtenFloat value
  | str within text => exact onLine_writtenString asciiOnly text
  | @list enclosing within items readable inductionHypothesis =>
      have opening : OnLine ['['] := by decide
      have closing : OnLine [']'] := by decide
      cases items with
      | nil => exact opening.append closing
      | cons item items =>
          obtain ⟨first, others⟩ := List.forall_mem_cons.mp inductionHypothesis
          have later := onLine_writtenItems fun other there => others other there (level + 1)
          have onLine := ((opening.append (first (level + 1))).append later).append closing
          simpa [written, lineBreak] using onLine
  | @object enclosing within members different readable inductionHypothesis =>
      have opening : OnLine ['\x7b'] := by decide
      have closing : OnLine ['\x7d'] := by decide
      cases members with
      | nil => exact opening.append closing
      | cons member members =>
          obtain ⟨first, others⟩ := List.forall_mem_cons.mp inductionHypothesis
          have colon : OnLine [':', ' '] := by decide
          have later := onLine_writtenMembers fun other there => others other there (level + 1)
          have onLine := ((((opening.append (onLine_writtenString asciiOnly member.1)).append
            colon).append (first (level + 1))).append later).append closing
          simpa [written, lineBreak] using onLine

/-! ## Long integers -/

/-- The written form of a value on one line, unless an integer in it is too long to be written. -/
def writtenLine? (asciiOnly : Bool) (value : Json) : Option (List Char) :=
  if value.isWritable then some (written ⟨asciiOnly, none⟩ 0 value) else none

/-- Items can be written if each of them can. -/
theorem areWritable_iff {items : List Json} :
    areWritable items = true ↔ ∀ item ∈ items, item.isWritable = true := by
  induction items with
  | nil => simp [areWritable]
  | cons item items inductionHypothesis =>
      rw [areWritable, Bool.and_eq_true, List.forall_mem_cons, inductionHypothesis]

/-- Members can be written if the value of each can. -/
theorem areMembersWritable_iff {members : List (String × Json)} :
    areMembersWritable members = true ↔ ∀ member ∈ members, member.2.isWritable = true := by
  induction members with
  | nil => simp [areMembersWritable]
  | cons member members inductionHypothesis =>
      rw [areMembersWritable, Bool.and_eq_true, List.forall_mem_cons, inductionHypothesis]

/-- An integer that can be written can be read. -/
theorem Readable.of_isWritable {limits stricter : Limits} {enclosing : Nat} {value : Json}
    (readable : Readable limits enclosing value) (writable : value.isWritable = true)
    (deep : limits.depth ≤ stricter.depth)
    (digits : ∀ negative, ∀ limit ∈ stricter.room negative, Numeral.digitLimit ≤ limit) :
    Readable stricter enclosing value := by
  induction readable with
  | null within => exact .null (Nat.le_trans within deep)
  | bool within value => exact .bool (Nat.le_trans within deep) value
  | int within =>
      rw [isWritable, decide_eq_true_eq] at writable
      exact .int (Nat.le_trans within deep) fun limit known =>
        Nat.le_trans writable (digits _ limit known)
  | float within room value =>
      exact .float (Nat.le_trans within deep)
        (fun negative limit known => Nat.le_trans (by decide) (digits negative limit known)) value
  | str within text => exact .str (Nat.le_trans within deep) text
  | list within readable inductionHypothesis =>
      rw [isWritable, areWritable_iff] at writable
      exact .list (Nat.le_trans within deep) fun item there =>
        inductionHypothesis item there (writable item there)
  | object within different readable inductionHypothesis =>
      rw [isWritable, areMembersWritable_iff] at writable
      exact .object (Nat.le_trans within deep) different fun member there =>
        inductionHypothesis member there (writable member there)

/-- What is written on one line is read back. It is not empty, and it stays on its line. -/
theorem Readable.document_writtenLine {asciiOnly : Bool} {value : Json} {text : List Char}
    (readable : Readable ⟨Line.nestingLimit, none, false⟩ 0 value)
    (isWritten : writtenLine? asciiOnly value = some text) :
    Line.document .ofReader text = .ok value ∧ text ≠ [] ∧ OnLine text := by
  rw [writtenLine?, Option.ite_none_right_eq_some, Option.some.injEq] at isWritten
  obtain ⟨writable, rfl⟩ := isWritten
  have within : Readable .ofReader 0 value :=
    readable.of_isWritable writable (Nat.le_refl _) fun negative limit known =>
      Nat.le_of_eq (Option.some.inj known)
  have isValue := within.valueText_written ⟨asciiOnly, none⟩ 0
  obtain ⟨first, rest, starts, -⟩ := isValue.starts
  refine ⟨Line.document_eq_ok_iff.mpr ?_, ?_, within.onLine_written asciiOnly 0⟩
  · exact ⟨[], _, [], (List.append_nil _).symm, Line.gap_nil, Line.gap_nil, isValue⟩
  · rw [starts]
    exact List.cons_ne_nil first rest

end LintClient.Json
