import LintClient.Proofs.Json.Members
import LintClient.Proofs.Protocol.IntegerText
import LintClient.Protocol.Record

/-!
# The fields of a record

What the checks of the fields ask for, field by field, and what they report when a field fails: all
faults, in the order of the fields.
-/

namespace LintClient.Protocol

/-! ## Single fields -/

/-- The value counts as the integer. -/
inductive CountsAs : Json → Int → Prop where
  | int (number : Int) : CountsAs (.int number) number
  | bool (value : Bool) : CountsAs (.bool value) (if value then 1 else 0)
  /-- A floating-point number counts if it is an integer within the signed 64-bit range. -/
  | float {value : Binary64} {number : Int} (finite : value.isFinite = true)
      (exact : value.toInt? = some number) (small : number.natAbs < powerOfTwo 63) :
      CountsAs (.float value) number
  | text {text : String} {number : Int} (spells : IntegerText text.toList number) :
      CountsAs (.str text) number

/-- A text that may be absent or null. -/
inductive IsOptionalText : Option Json → Option String → Prop where
  | absent : IsOptionalText none none
  | null : IsOptionalText (some .null) none
  | text (text : String) : IsOptionalText (some (.str text)) (some text)

/-- A list that may be absent. -/
inductive IsOptionalList : Option Json → List Json → Prop where
  | absent : IsOptionalList none []
  | list (items : List Json) : IsOptionalList (some (.list items)) items

/-- A pair of integers that may be absent or null. -/
inductive IsOptionalPair : Option Json → Option (Int × Int) → Prop where
  | absent : IsOptionalPair none none
  | null : IsOptionalPair (some .null) none
  | pair {first second : Json} {left right : Int} (isLeft : CountsAs first left)
      (isRight : CountsAs second right) :
      IsOptionalPair (some (.list [first, second])) (some (left, right))

/-- The record that the fields of an object make. -/
structure FieldsMake (field : String → Option Json) (record : Record) : Prop where
  kind : field "type" = some (.str record.kind)
  error : IsOptionalText (field "error") record.error
  message : IsOptionalText (field "message") record.message
  name : IsOptionalText (field "variable") record.name
  comment : IsOptionalText (field "comment") record.comment
  usage : IsOptionalList (field "usage") record.usage
  definitions : IsOptionalList (field "definitions") record.definitions
  lines : IsOptionalPair (field "line") record.lines
  columns : IsOptionalPair (field "column") record.columns

/-- The lax reading of an integer gives exactly what a value counts as. -/
theorem integerOf_eq_ok_iff {value : Json} {number : Int} :
    integerOf value = .ok number ↔ CountsAs value number := by
  constructor
  · intro found
    cases value with
    | int value =>
        obtain rfl := Except.ok.inj found
        exact .int value
    | bool value =>
        obtain rfl := Except.ok.inj found
        exact .bool value
    | str text => exact .text (integerOfText_eq_ok_iff.mp found)
    | float value =>
        simp only [integerOf, integerOfFloat] at found
        split at found
        · cases found
        · next finite =>
          split at found
          · cases found
          · next exact' same =>
            split at found
            · next small =>
              obtain rfl := Except.ok.inj found
              exact .float (by simpa using finite) same small
            · cases found
    | null => cases found
    | stray text => cases found
    | list items => cases found
    | object members => cases found
    | mixed keys values => cases found
  · intro counts
    cases counts with
    | int => rfl
    | bool => rfl
    | float finite same small =>
        simp [integerOf, integerOfFloat, finite, same, small]
    | text spells => exact integerOfText_eq_ok_iff.mpr spells

/-- A required text has to be there. -/
theorem requiredText_eq_ok_iff {value : Option Json} {text : String} :
    requiredText value = .ok text ↔ value = some (.str text) := by
  constructor
  · intro found
    unfold requiredText at found
    split at found
    · rw [Except.ok.inj found]
    · cases found
    · cases found
  · rintro rfl
    rfl

/-- An optional text is a text, is null or is not there. -/
theorem optionalText_eq_ok_iff {value : Option Json} {text : Option String} :
    optionalText value = .ok text ↔ IsOptionalText value text := by
  constructor
  · intro found
    unfold optionalText at found
    split at found
    · obtain rfl := Except.ok.inj found
      exact .absent
    · obtain rfl := Except.ok.inj found
      exact .null
    · obtain rfl := Except.ok.inj found
      exact .text _
    · cases found
  · intro isText
    cases isText <;> rfl

/-- An optional list is a list, is null or is not there. -/
theorem optionalList_eq_ok_iff {value : Option Json} {items : List Json} :
    optionalList value = .ok items ↔ IsOptionalList value items := by
  constructor
  · intro found
    unfold optionalList at found
    split at found
    · obtain rfl := Except.ok.inj found
      exact .absent
    · obtain rfl := Except.ok.inj found
      exact .list _
    · cases found
  · intro isList
    cases isList <;> rfl

/-! ## Several checks -/

/-- The faults that a check found. -/
def faultsOf {α : Type} : Checked α → List FieldFault
  | .ok _ => []
  | .error faults => faults

/-- Two checks in a row succeed if both do. -/
theorem apply_eq_ok_iff {α β : Type} {function : Checked (α → β)} {argument : Checked α}
    {result : β} : Checked.apply function argument = .ok result ↔
      ∃ found value, function = .ok found ∧ argument = .ok value ∧ found value = result := by
  cases function with
  | ok found => cases argument <;> simp [Checked.apply]
  | error faults => cases argument <;> simp [Checked.apply]

/-- Two checks in a row report the faults of both. -/
theorem faultsOf_apply {α β : Type} (function : Checked (α → β)) (argument : Checked α) :
    faultsOf (Checked.apply function argument) = faultsOf function ++ faultsOf argument := by
  cases function <;> cases argument <;> simp [Checked.apply, faultsOf]

/-- A changed check passes if the check does. -/
theorem map_eq_ok_iff {α β : Type} {function : α → β} {argument : Checked α} {result : β} :
    argument.map function = .ok result ↔
      ∃ value, argument = .ok value ∧ function value = result := by
  cases argument <;> simp [Except.map]

/-- Changing the result of a check changes nothing about its faults. -/
theorem faultsOf_map {α β : Type} (function : α → β) (argument : Checked α) :
    faultsOf (argument.map function) = faultsOf argument := by
  cases argument <;> rfl

/-! ## Pairs -/

/-- An element of a pair has to be there, and counts as an integer. -/
theorem element_eq_ok_iff {value : Option Json} {number : Int} :
    element value = .ok number ↔ ∃ there, value = some there ∧ CountsAs there number := by
  cases value with
  | none => simp [element]
  | some value =>
      simp only [element, Option.some.injEq, exists_eq_left']
      rw [← integerOf_eq_ok_iff]
      cases integerOf value <;> simp

/-- A pair is a list of exactly two values that count as integers. -/
theorem pair_eq_ok_iff {otherKind : FieldFault} {value : Json} {result : Int × Int} :
    pair otherKind value = .ok result ↔ ∃ first second,
      value = .list [first, second] ∧ CountsAs first result.1 ∧ CountsAs second result.2 := by
  constructor
  · intro found
    unfold pair at found
    split at found
    · next items =>
      split at found
      · next short =>
        obtain ⟨make, right, makes, isRight, rfl⟩ := apply_eq_ok_iff.mp found
        obtain ⟨left, isLeft, rfl⟩ := map_eq_ok_iff.mp makes
        obtain ⟨first, isFirst, countsFirst⟩ := element_eq_ok_iff.mp isLeft
        obtain ⟨second, isSecond, countsSecond⟩ := element_eq_ok_iff.mp isRight
        refine ⟨first, second, ?_, countsFirst, countsSecond⟩
        match items, short, isFirst, isSecond with
        | [_, _], _, rfl, rfl => rfl
      · cases found
    · cases found
  · rintro ⟨first, second, rfl, countsFirst, countsSecond⟩
    have left := integerOf_eq_ok_iff.mpr countsFirst
    have right := integerOf_eq_ok_iff.mpr countsSecond
    simp [pair, element, left, right, Checked.apply, Except.map]

/-- An optional pair is a pair, is null or is not there. -/
theorem optionalPair_eq_ok_iff {otherKind : FieldFault} {value : Option Json}
    {result : Option (Int × Int)} :
    optionalPair otherKind value = .ok result ↔ IsOptionalPair value result := by
  constructor
  · intro found
    unfold optionalPair at found
    split at found
    · obtain rfl := Except.ok.inj found
      exact .absent
    · obtain rfl := Except.ok.inj found
      exact .null
    · obtain ⟨numbers, isPair, rfl⟩ := map_eq_ok_iff.mp found
      obtain ⟨first, second, rfl, countsFirst, countsSecond⟩ := pair_eq_ok_iff.mp isPair
      exact .pair countsFirst countsSecond
  · intro isPair
    cases isPair with
    | absent => rfl
    | null => rfl
    | @pair first second left right countsFirst countsSecond =>
        have both : pair otherKind (.list [first, second]) = .ok (left, right) :=
          pair_eq_ok_iff.mpr ⟨first, second, rfl, countsFirst, countsSecond⟩
        simp only [optionalPair, both]
        rfl

/-! ## All fields -/

/-- The faults of all fields, in their order. -/
def fieldFaults (field : String → Option Json) : List FieldFault :=
  faultsOf (requiredText (field "type")) ++ faultsOf (optionalText (field "error")) ++
    faultsOf (optionalText (field "message")) ++ faultsOf (optionalText (field "variable")) ++
    faultsOf (optionalText (field "comment")) ++ faultsOf (optionalList (field "usage")) ++
    faultsOf (optionalList (field "definitions")) ++
    faultsOf (optionalPair .notArray (field "line")) ++
    faultsOf (optionalPair .notArray (field "column"))

/-- The fields of an object make a record if each of them passes its check. -/
theorem recordOfMembers_eq_ok_iff {members : List (String × Json)} {record : Record} :
    recordOfMembers members = .ok record ↔ FieldsMake (Json.member? · members) record := by
  constructor
  · intro found
    obtain ⟨_, columns, toLines, isColumns, rfl⟩ := apply_eq_ok_iff.mp found
    obtain ⟨_, lines, toDefinitions, isLines, rfl⟩ := apply_eq_ok_iff.mp toLines
    obtain ⟨_, definitions, toUsage, isDefinitions, rfl⟩ := apply_eq_ok_iff.mp toDefinitions
    obtain ⟨_, usage, toComment, isUsage, rfl⟩ := apply_eq_ok_iff.mp toUsage
    obtain ⟨_, comment, toName, isComment, rfl⟩ := apply_eq_ok_iff.mp toComment
    obtain ⟨_, name, toMessage, isName, rfl⟩ := apply_eq_ok_iff.mp toName
    obtain ⟨_, message, toError, isMessage, rfl⟩ := apply_eq_ok_iff.mp toMessage
    obtain ⟨_, error, toKind, isError, rfl⟩ := apply_eq_ok_iff.mp toError
    obtain ⟨kind, isKind, rfl⟩ := map_eq_ok_iff.mp toKind
    exact ⟨requiredText_eq_ok_iff.mp isKind, optionalText_eq_ok_iff.mp isError,
      optionalText_eq_ok_iff.mp isMessage, optionalText_eq_ok_iff.mp isName,
      optionalText_eq_ok_iff.mp isComment, optionalList_eq_ok_iff.mp isUsage,
      optionalList_eq_ok_iff.mp isDefinitions, optionalPair_eq_ok_iff.mp isLines,
      optionalPair_eq_ok_iff.mp isColumns⟩
  · rintro ⟨kind, error, message, name, comment, usage, definitions, lines, columns⟩
    simp only [recordOfMembers, requiredText_eq_ok_iff.mpr kind,
      optionalText_eq_ok_iff.mpr error, optionalText_eq_ok_iff.mpr message,
      optionalText_eq_ok_iff.mpr name, optionalText_eq_ok_iff.mpr comment,
      optionalList_eq_ok_iff.mpr usage, optionalList_eq_ok_iff.mpr definitions,
      optionalPair_eq_ok_iff.mpr lines, optionalPair_eq_ok_iff.mpr columns]
    rfl

/-- Fields that make no record are reported with all their faults. -/
theorem faultsOf_recordOfMembers (members : List (String × Json)) :
    faultsOf (recordOfMembers members) = fieldFaults (Json.member? · members) := by
  simp only [recordOfMembers, faultsOf_apply, faultsOf_map, fieldFaults]

/-- A check that fails has found at least one fault. -/
def Founded {α : Type} (check : Checked α) : Prop :=
  check ≠ .error []

/-- Two checks together find a fault if they fail. -/
theorem Founded.apply {α β : Type} {function : Checked (α → β)} {argument : Checked α}
    (isFunction : Founded function) (isArgument : Founded argument) :
    Founded (Checked.apply function argument) := by
  cases function with
  | ok found => cases argument <;> simp_all [Founded, Checked.apply]
  | error faults => cases argument <;> simp_all [Founded, Checked.apply]

/-- A changed check finds a fault if it fails. -/
theorem Founded.map {α β : Type} (function : α → β) {argument : Checked α}
    (isArgument : Founded argument) : Founded (argument.map function) := by
  cases argument <;> simp_all [Founded, Except.map]

/-- A required text fails with a fault. -/
theorem founded_requiredText (value : Option Json) : Founded (requiredText value) := by
  unfold Founded requiredText
  split <;> simp

/-- An optional text fails with a fault. -/
theorem founded_optionalText (value : Option Json) : Founded (optionalText value) := by
  unfold Founded optionalText
  split <;> simp

/-- An optional list fails with a fault. -/
theorem founded_optionalList (value : Option Json) : Founded (optionalList value) := by
  unfold Founded optionalList
  split <;> simp

/-- An element of a pair fails with a fault. -/
theorem founded_element (value : Option Json) : Founded (element value) := by
  unfold Founded element
  split
  · simp
  · split <;> simp

/-- An optional pair fails with a fault. -/
theorem founded_optionalPair (value : Option Json) :
    Founded (optionalPair .notArray value) := by
  have isPair (value : Json) : Founded (pair .notArray value) := by
    unfold pair
    split
    · split
      · exact ((founded_element _).map Prod.mk).apply (founded_element _)
      · simp [Founded]
    · simp [Founded]
  unfold optionalPair
  split
  · simp [Founded]
  · simp [Founded]
  · exact (isPair _).map some

/-- Fields that make no record have a fault. -/
theorem founded_recordOfMembers (members : List (String × Json)) :
    Founded (recordOfMembers members) :=
  ((founded_requiredText _).map Record.mk).apply (founded_optionalText _)
    |>.apply (founded_optionalText _)
    |>.apply (founded_optionalText _)
    |>.apply (founded_optionalText _)
    |>.apply (founded_optionalList _)
    |>.apply (founded_optionalList _)
    |>.apply (founded_optionalPair _)
    |>.apply (founded_optionalPair _)

end LintClient.Protocol
