import LintClient.Proofs.Protocol.Findings
import Mathlib.Data.Nat.Digits.Defs

/-!
# The size of coordinates

A line of output is read only if its integers have few enough digits, and so have the integers that
texts in it spell. What a record describes therefore never has a coordinate that is too long to be
written (`Record.IsWritable.diagnostic`, `Record.IsWritable.symbol`).
-/

namespace LintClient

/-! ## Digits -/

namespace Text

/-- Digits denote less than the power of ten that has one more digit. -/
theorem numberOfDigits_lt {digits : List Char} (areDigits : ∀ c ∈ digits, isAsciiDigit c = true) :
    numberOfDigits digits < 10 ^ digits.length := by
  induction digits using List.reverseRecOn with
  | nil => decide
  | append_singleton digits c inductionHypothesis =>
      rw [List.forall_mem_append, List.forall_mem_singleton] at areDigits
      have earlier := inductionHypothesis areDigits.1
      have last : c.toNat - '0'.toNat < 10 := by
        have digit := areDigits.2
        rw [isAsciiDigit, Bool.and_eq_true, decide_eq_true_eq, decide_eq_true_eq, Char.le_def,
          Char.le_def, UInt32.le_iff_toNat_le, UInt32.le_iff_toNat_le] at digit
        have zero : '0'.toNat = 48 := rfl
        have nine : '9'.val.toNat = 57 := rfl
        have same : c.toNat = c.val.toNat := rfl
        omega
      have joined : numberOfDigits (digits ++ [c]) =
          numberOfDigits digits * 10 + (c.toNat - '0'.toNat) := by
        simp [numberOfDigits]
      rw [joined, List.length_append, List.length_singleton, Nat.pow_succ]
      omega

end Text

namespace Json

/-- An integer can be written if it is small enough. -/
theorem isWritable_int_iff {value : Int} :
    isWritable (.int value) = true ↔ value.natAbs < 10 ^ Numeral.digitLimit := by
  rw [isWritable, decide_eq_true_eq]
  constructor
  · intro short
    have small := Text.numberOfDigits_lt (digits_toDigits value.natAbs).digits
    rw [numberOfDigits_toDigits] at small
    exact Nat.lt_of_lt_of_le small (Nat.pow_le_pow_right (by decide) short)
  · exact Nat.toDigits_length 10 value.natAbs Numeral.digitLimit (by decide)

/-- Whatever is no larger than an integer that can be written can be written. -/
theorem isWritable_int_of_natAbs_le {small large : Int} (le : small.natAbs ≤ large.natAbs)
    (writable : isWritable (.int large) = true) : isWritable (.int small) = true :=
  isWritable_int_iff.mpr (Nat.lt_of_le_of_lt le (isWritable_int_iff.mp writable))

open Line (WholeDigits NumberText ValueText Limits)

/-- What digits within the limit denote can be written. -/
theorem isWritable_toInt {digits : List Char} (negative : Bool)
    (isWhole : WholeDigits (some Numeral.digitLimit) digits) :
    isWritable (.int (Numeral.toInt ⟨negative, digits, none, none⟩)) = true := by
  rw [isWritable_int_iff]
  have small := Text.numberOfDigits_lt isWhole.digits
  have short : digits.length ≤ Numeral.digitLimit := isWhole.within _ rfl
  have magnitude : (Numeral.toInt ⟨negative, digits, none, none⟩).natAbs =
      Text.numberOfDigits digits := by
    cases negative <;> simp [Numeral.toInt]
  rw [magnitude]
  exact Nat.lt_of_lt_of_le small (Nat.pow_le_pow_right (by decide) short)

/-- A number within the limits denotes a value that can be written. -/
theorem isWritable_ofNumeral {text : List Char} {numeral : Numeral}
    (isNumber : NumberText .ofReader text numeral) : isWritable (ofNumeral numeral) = true := by
  obtain ⟨negative, isWhole, -, -⟩ := isNumber
  unfold ofNumeral
  split
  · exact isWritable_toInt negative isWhole
  · rfl

/-- A text within the limits denotes a value that can be written. -/
theorem isWritable_of_valueText {enclosing : Nat} {text : List Char} {value : Json}
    (isValue : ValueText .ofReader enclosing text value) : value.isWritable = true := by
  generalize limited : Limits.ofReader = limits at isValue
  induction isValue with
  | name within known =>
      simp only [Line.names, List.mem_cons, Prod.mk.injEq, List.not_mem_nil, or_false] at known
      rcases known with ⟨-, rfl⟩ | ⟨-, rfl⟩ | ⟨-, rfl⟩ | ⟨-, rfl⟩ | ⟨-, rfl⟩ | ⟨-, rfl⟩ <;> rfl
  | number within isNumber =>
      subst limited
      exact isWritable_ofNumeral isNumber
  | string => rfl
  | emptyList => rfl
  | @list enclosing items within nonempty gaps values inductionHypothesis =>
      rw [isWritable, areWritable_iff, List.forall_mem_map]
      exact inductionHypothesis
  | emptyObject => rfl
  | @object enclosing members within nonempty keys gaps values inductionHypothesis =>
      rw [isWritable, areMembersWritable_iff]
      intro pair there
      obtain ⟨member, among, rfl⟩ := List.mem_map.mp (mem_of_mem_membersOf there)
      exact inductionHypothesis member among

/-- The value of a key of an object that can be written can be written. -/
theorem isWritable_of_member? {key : String} {members : List (String × Json)} {value : Json}
    (writable : areMembersWritable members = true) (found : member? key members = some value) :
    value.isWritable = true := by
  obtain ⟨before, after, rfl, -⟩ := List.lookup_eq_some_iff.mp found
  exact areMembersWritable_iff.mp writable (key, value)
    (List.mem_append_right _ List.mem_cons_self)

end Json

namespace Protocol

open Json (isWritable isWritable_int_iff isWritable_int_of_natAbs_le)

/-! ## Pairs -/

/-- What counts as an integer can be written. -/
theorem isWritable_of_countsAs {value : Json} {number : Int} (counts : CountsAs value number)
    (writable : value.isWritable = true) : isWritable (.int number) = true := by
  cases counts with
  | int => exact writable
  | bool value => cases value <;> decide
  | float finite same small =>
      have range : powerOfTwo 63 ≤ 10 ^ 19 := by decide
      have limit : 10 ^ 19 ≤ 10 ^ Numeral.digitLimit := Nat.pow_le_pow_right (by decide) (by decide)
      exact isWritable_int_iff.mpr (Nat.lt_of_lt_of_le small (Nat.le_trans range limit))
  | @text text _ spells =>
      generalize text.toList = chars at spells
      obtain ⟨-, -, magnitude, -, -, -, short⟩ := spells
      exact Json.isWritable_toInt _ (magnitude.isWhole short)

/-- Both integers of a pair can be written. -/
def PairIsWritable (pair : Int × Int) : Prop :=
  isWritable (.int pair.1) = true ∧ isWritable (.int pair.2) = true

/-- Two values that count as integers make a pair that can be written. -/
theorem pairIsWritable_of_countsAs {first second : Json} {pair : Int × Int}
    (writable : isWritable (.list [first, second]) = true) (isFirst : CountsAs first pair.1)
    (isSecond : CountsAs second pair.2) : PairIsWritable pair := by
  rw [isWritable, Json.areWritable_iff] at writable
  exact ⟨isWritable_of_countsAs isFirst (writable first (by simp)),
    isWritable_of_countsAs isSecond (writable second (by simp))⟩

/-! ## Ranges -/

/-- A range can be written if its four integers can. -/
theorem isWritable_toJson_range {range : Range} : range.toJson.isWritable = true ↔
    (isWritable (.int range.start.line) = true ∧ isWritable (.int range.start.character) = true) ∧
      isWritable (.int range.stop.line) = true ∧ isWritable (.int range.stop.character) = true := by
  simp only [Range.toJson, Position.toJson, isWritable, Json.areMembersWritable, Bool.and_eq_true,
    and_true]

/-- The range of a sound span has no coordinate that is larger than those of the span. -/
theorem isWritable_toRange {span : Span} (sound : span.Denotes) (lines : PairIsWritable span.lines)
    (columns : PairIsWritable span.columns) : span.toRange.toJson.isWritable = true := by
  obtain ⟨firstLine, lastLine, firstColumn, lastColumn, -⟩ := sound
  rw [isWritable_toJson_range, Span.toRange]
  refine ⟨⟨isWritable_int_of_natAbs_le ?_ lines.1, isWritable_int_of_natAbs_le ?_ columns.1⟩,
    isWritable_int_of_natAbs_le ?_ lines.2, columns.2⟩ <;> dsimp only <;> omega

/-- The range of a place can be written if the place can. -/
theorem isWritable_of_placeOf {item : Json} {span : Span} (writable : item.isWritable = true)
    (isPlace : placeOf item = .ok span) : span.toRange.toJson.isWritable = true := by
  have pairs {members : List (String × Json)} {key : String} {otherKind : FieldFault}
      {numbers : Int × Int} (writable : Json.areMembersWritable members = true)
      (required : requiredPair otherKind (Json.member? key members) = .ok numbers) :
      PairIsWritable numbers := by
    cases found : Json.member? key members with
    | none =>
        rw [found] at required
        cases required
    | some value =>
        rw [found] at required
        obtain ⟨first, second, rfl, isFirst, isSecond⟩ := pair_eq_ok_iff.mp required
        exact pairIsWritable_of_countsAs
          (Json.isWritable_of_member? writable found) isFirst isSecond
  obtain ⟨members, rfl, isLines, isColumns, sound⟩ := pairs_of_placeOf isPlace
  rw [isWritable] at writable
  exact isWritable_toRange (Span.fault?_eq_none_iff.mp sound) (pairs writable isLines)
    (pairs writable isColumns)

/-- The ranges of places can be written if the places can. -/
theorem isWritable_of_mem_placesOf (role : PlaceRole) (name : String) {items : List Json}
    {range : Range} (writable : Json.areWritable items = true)
    (there : range ∈ (placesOf role name items).1) : range.toJson.isWritable = true := by
  obtain ⟨item, among, span, isPlace, rfl⟩ := exists_of_mem_placesOf there
  exact isWritable_of_placeOf (Json.areWritable_iff.mp writable item among) isPlace

/-! ## Records -/

/-- The fields of a record that coordinates come from can be written. -/
structure Record.IsWritable (record : Record) : Prop where
  lines : ∀ pair ∈ record.lines, PairIsWritable pair
  columns : ∀ pair ∈ record.columns, PairIsWritable pair
  definitions : Json.areWritable record.definitions = true
  usage : Json.areWritable record.usage = true

section Fields

variable {members : List (String × Json)} (writable : Json.areMembersWritable members = true)
  {key : String}

include writable

/-- A pair that is given by a field of an object that can be written can be written. -/
theorem pairIsWritable_of_field {numbers : Option (Int × Int)}
    (isPair : IsOptionalPair (Json.member? key members) numbers) :
    ∀ pair ∈ numbers, PairIsWritable pair := by
  generalize given : Json.member? key members = value at isPair
  cases isPair with
  | absent => exact nofun
  | null => exact nofun
  | pair isFirst isSecond =>
      rintro pair ⟨⟩
      exact pairIsWritable_of_countsAs (Json.isWritable_of_member? writable given) isFirst isSecond

/-- A list that is given by a field of an object that can be written can be written. -/
theorem areWritable_of_field {items : List Json}
    (isList : IsOptionalList (Json.member? key members) items) : Json.areWritable items = true := by
  generalize given : Json.member? key members = value at isList
  cases isList with
  | absent => rfl
  | list => exact Json.isWritable_of_member? writable given

end Fields

/-- A record that a line is read as can be written. -/
theorem isWritable_of_readRecord {line : List Char} {record : Record}
    (isRecord : readRecord line = .ok record) : record.IsWritable := by
  obtain ⟨pairs, ⟨-, inner, -, -, -, -, isValue⟩, makes, -⟩ := readRecord_eq_ok_iff.mp isRecord
  have writable := Json.isWritable_of_valueText isValue
  rw [isWritable] at writable
  rw [← recordOfMembers_membersOf_eq_ok_iff, recordOfMembers_eq_ok_iff] at makes
  exact ⟨pairIsWritable_of_field writable makes.lines,
    pairIsWritable_of_field writable makes.columns,
    areWritable_of_field writable makes.definitions, areWritable_of_field writable makes.usage⟩

namespace Record.IsWritable

variable {record : Record} (writable : record.IsWritable)

include writable

/-- The diagnostic that a sensible record describes can be written. -/
theorem diagnostic (sensible : record.Sensible) (severity : Severity) :
    (record.diagnostic.toJson severity).isWritable = true := by
  have located : ∀ range ∈ record.diagnostic.range, range.toJson.isWritable = true := by
    intro range there
    obtain ⟨lines, columns, sameLines, sameColumns, rfl⟩ := record.exists_of_mem_diagnostic there
    exact isWritable_toRange (sensible.span lines columns sameLines sameColumns)
      (writable.lines lines sameLines) (writable.columns columns sameColumns)
  simp only [Diagnostic.toJson, isWritable, Json.areMembersWritable, Bool.true_and, Bool.and_true]
  cases given : record.diagnostic.range with
  | none => rfl
  | some range => exact located range given

/-- The variable that a record describes can be written. -/
theorem symbol : record.symbol.toJson.isWritable = true := by
  have definitions : ∀ range ∈ record.symbol.definitions, range.toJson.isWritable = true :=
    fun range there =>
      isWritable_of_mem_placesOf .definition (record.name.getD "") writable.definitions there
  have usage : ∀ range ∈ record.symbol.usage, range.toJson.isWritable = true :=
    fun range there =>
      isWritable_of_mem_placesOf .usage (record.name.getD "") writable.usage there
  simp only [Variable.toJson, isWritable, Json.areMembersWritable, Bool.true_and, Bool.and_true,
    Bool.and_eq_true, Json.areWritable_iff, List.forall_mem_map]
  exact ⟨definitions, usage⟩

end Record.IsWritable

end Protocol

end LintClient
