import LintClient.Proofs.Json.Line.Depth
import LintClient.Proofs.Protocol.Record

/-!
# What a record depends on

Of the object on a line only the values of its fields count. Lines whose fields have the same values
are decoded alike, to the same record or with the same words, however they are written and whatever
else they hold (`decodeText_depends_on_fields`). This goes for lines that are read as JSON, whatever
the limits of the reader are: what is written under an unknown name may be nested too deeply to be
read.
-/

namespace LintClient

/-! ## The same value -/

namespace Json

/-- Two values are the same, where the order of the members of objects does not count. -/
inductive Alike : Json → Json → Prop where
  | null : Alike .null .null
  | bool (value : Bool) : Alike (.bool value) (.bool value)
  | int (value : Int) : Alike (.int value) (.int value)
  | float (value : Binary64) : Alike (.float value) (.float value)
  | str (value : String) : Alike (.str value) (.str value)
  | list {left right : List Json} (items : List.Forall₂ Alike left right) :
      Alike (.list left) (.list right)
  | object {left right : List (String × Json)}
      (members : ∀ key, Option.Rel Alike (member? key left) (member? key right)) :
      Alike (.object left) (.object right)

end Json

namespace Protocol

open Json (Alike)
open Json.Line

variable {left right : Option Json}

/-- A required text is checked in the same way in fields that are alike. -/
theorem requiredText_congr (alike : Option.Rel Alike left right) :
    requiredText left = requiredText right := by
  cases alike with
  | none => rfl
  | some alike => cases alike <;> rfl

/-- An optional text is checked in the same way in fields that are alike. -/
theorem optionalText_congr (alike : Option.Rel Alike left right) :
    optionalText left = optionalText right := by
  cases alike with
  | none => rfl
  | some alike => cases alike <;> rfl

/-- Values that are alike count as the same integer, or fail to for the same reason. -/
theorem integerOf_congr {left right : Json} (alike : Alike left right) :
    integerOf left = integerOf right := by
  cases alike <;> rfl

/-- Elements that are alike are checked in the same way. -/
theorem element_congr (alike : Option.Rel Alike left right) : element left = element right := by
  cases alike with
  | none => rfl
  | some alike => simp only [element, integerOf_congr alike]

/-- Lists of related items have related items at every place. -/
theorem rel_getElem? {α β : Type} {related : α → β → Prop} {left : List α} {right : List β}
    (items : List.Forall₂ related left right) (place : Nat) :
    Option.Rel related left[place]? right[place]? := by
  induction items generalizing place with
  | nil => exact .none
  | cons first _ inductionHypothesis =>
      cases place with
      | zero => exact .some first
      | succ place => exact inductionHypothesis place

/-- Pairs that are alike are checked in the same way. -/
theorem pair_congr (otherKind : FieldFault) {left right : Json} (alike : Alike left right) :
    pair otherKind left = pair otherKind right := by
  cases alike with
  | list items =>
      simp only [pair, items.length_eq, element_congr (rel_getElem? items 0),
        element_congr (rel_getElem? items 1)]
  | _ => rfl

/-- An optional pair is checked in the same way in fields that are alike. -/
theorem optionalPair_congr (otherKind : FieldFault) (alike : Option.Rel Alike left right) :
    optionalPair otherKind left = optionalPair otherKind right := by
  cases alike with
  | none => rfl
  | some alike =>
      have same := pair_congr otherKind alike
      cases alike with
      | null => rfl
      | _ => simp only [optionalPair, same]

/-- Lists that are alike are read alike. -/
theorem IsOptionalList.alike (alike : Option.Rel Alike left right) {items : List Json}
    (isList : IsOptionalList left items) :
    ∃ others, IsOptionalList right others ∧ List.Forall₂ Alike items others := by
  cases isList with
  | absent =>
      cases alike
      exact ⟨[], .absent, .nil⟩
  | list items =>
      cases alike with
      | some alike =>
          cases alike with
          | list same => exact ⟨_, .list _, same⟩

/-- The same is wrong with lists in fields that are alike. -/
theorem faultsOf_optionalList_congr (alike : Option.Rel Alike left right) :
    faultsOf (optionalList left) = faultsOf (optionalList right) := by
  cases alike with
  | none => rfl
  | some alike => cases alike <;> rfl

/-! ## The fields of a record -/

/-- The names of the fields of a record, in their order. -/
def fieldNames : List String :=
  ["type", "error", "message", "variable", "comment", "usage", "definitions", "line", "column"]

/-- The faults of one field. -/
def faultsAt (name : String) (value : Option Json) : List FieldFault :=
  if name = "type" then faultsOf (requiredText value)
  else if name ∈ ["error", "message", "variable", "comment"] then faultsOf (optionalText value)
  else if name ∈ ["usage", "definitions"] then faultsOf (optionalList value)
  else faultsOf (optionalPair .notArray value)

/-- Faults are found field by field. -/
theorem fieldFaults_eq_flatMap (field : String → Option Json) :
    fieldFaults field = fieldNames.flatMap fun name => faultsAt name (field name) := by
  simp [fieldFaults, fieldNames, faultsAt]

/-- Two records are the same, where the order of the members of objects does not count. -/
structure Record.Alike (left right : Record) : Prop where
  kind : left.kind = right.kind
  error : left.error = right.error
  message : left.message = right.message
  name : left.name = right.name
  comment : left.comment = right.comment
  usage : List.Forall₂ Json.Alike left.usage right.usage
  definitions : List.Forall₂ Json.Alike left.definitions right.definitions
  lines : left.lines = right.lines
  columns : left.columns = right.columns

section Fields

variable {field other : String → Option Json}
  (same : ∀ name ∈ fieldNames, Option.Rel Alike (field name) (other name))

include same

/-- The same faults are found, in the same order, in fields that are alike. -/
theorem fieldFaults_congr : fieldFaults field = fieldFaults other := by
  simp only [fieldFaults, requiredText_congr (same "type" (by decide)),
    optionalText_congr (same "error" (by decide)),
    optionalText_congr (same "message" (by decide)),
    optionalText_congr (same "variable" (by decide)),
    optionalText_congr (same "comment" (by decide)),
    faultsOf_optionalList_congr (same "usage" (by decide)),
    faultsOf_optionalList_congr (same "definitions" (by decide)),
    optionalPair_congr _ (same "line" (by decide)),
    optionalPair_congr _ (same "column" (by decide))]

/-- Fields that are alike make records that are alike. -/
theorem FieldsMake.alike {record : Record} (makes : FieldsMake field record) :
    ∃ found, FieldsMake other found ∧ record.Alike found := by
  obtain ⟨usage, isUsage, sameUsage⟩ := makes.usage.alike (same "usage" (by decide))
  obtain ⟨definitions, isDefinitions, sameDefinitions⟩ :=
    makes.definitions.alike (same "definitions" (by decide))
  refine ⟨{ record with usage, definitions }, ?makes,
    ⟨rfl, rfl, rfl, rfl, rfl, sameUsage, sameDefinitions, rfl, rfl⟩⟩
  have text (name : String) (known : name ∈ fieldNames) {value : Option String}
      (isText : IsOptionalText (field name) value) : IsOptionalText (other name) value := by
    rw [← optionalText_eq_ok_iff] at isText ⊢
    rw [← optionalText_congr (same name known), isText]
  have pair (name : String) (known : name ∈ fieldNames) {numbers : Option (Int × Int)}
      (isPair : IsOptionalPair (field name) numbers) : IsOptionalPair (other name) numbers := by
    rw [← @optionalPair_eq_ok_iff .notArray] at isPair ⊢
    rw [← optionalPair_congr .notArray (same name known), isPair]
  have kind : other "type" = some (.str record.kind) := by
    rw [← requiredText_eq_ok_iff, ← requiredText_congr (same "type" (by decide)),
      requiredText_eq_ok_iff]
    exact makes.kind
  exact ⟨kind, text "error" (by decide) makes.error, text "message" (by decide) makes.message,
    text "variable" (by decide) makes.name, text "comment" (by decide) makes.comment, isUsage,
    isDefinitions, pair "line" (by decide) makes.lines, pair "column" (by decide) makes.columns⟩

end Fields

/-- What is wrong with a record does not depend on its lists of places. -/
theorem Record.Alike.fault?_eq {left right : Record} (alike : left.Alike right) :
    left.fault? = right.fault? := by
  simp only [Record.fault?, Record.span?, alike.kind, alike.name, alike.lines, alike.columns]

/-! ## Objects -/

section Objects

variable {members others : List (String × Json)}

/-- The record that an object is depends on the values of its fields. -/
theorem recordOf_congr
    (same : ∀ name ∈ fieldNames, Json.member? name members = Json.member? name others) :
    recordOf (.object members) = recordOf (.object others) := by
  have fields : recordOfMembers members = recordOfMembers others := by
    simp only [recordOfMembers, same "type" (by decide), same "error" (by decide),
      same "message" (by decide), same "variable" (by decide), same "comment" (by decide),
      same "usage" (by decide), same "definitions" (by decide), same "line" (by decide),
      same "column" (by decide)]
  simp only [recordOf, fields]

/-- An object whose fields have faults has all of them, in the order of the fields. -/
theorem recordOf_of_faults (some : fieldFaults (Json.member? · members) ≠ []) :
    recordOf (.object members) = .error (.fields (fieldFaults (Json.member? · members))) := by
  have faults := faultsOf_recordOfMembers members
  cases made : recordOfMembers members with
  | ok record =>
      rw [made] at faults
      exact absurd faults.symm some
  | error found =>
      rw [made] at faults
      rw [← faults]
      simp only [recordOf, made, faultsOf]

/-- An object whose fields make a record is that record, unless something is wrong with it. -/
theorem recordOf_of_makes {record : Record} (makes : FieldsMake (Json.member? · members) record) :
    recordOf (.object members) = record.fault?.elim (.ok record) .error := by
  have made := recordOfMembers_eq_ok_iff.mpr makes
  simp only [recordOf, made]
  cases record.fault? <;> rfl

/-- The record that an object is or the fault that it has. -/
theorem fields_cases (members : List (String × Json)) :
    fieldFaults (Json.member? · members) ≠ [] ∨
      ∃ record, FieldsMake (Json.member? · members) record := by
  cases made : recordOfMembers members with
  | ok record => exact .inr ⟨record, recordOfMembers_eq_ok_iff.mp made⟩
  | error found =>
      left
      rw [← faultsOf_recordOfMembers, made]
      rintro rfl
      exact founded_recordOfMembers members made

/-- Objects whose fields are alike are records that are alike, or have the same fault. -/
theorem recordOf_alike (same : ∀ name ∈ fieldNames,
      Option.Rel Alike (Json.member? name members) (Json.member? name others)) :
    (∃ record found, recordOf (.object members) = .ok record ∧
      recordOf (.object others) = .ok found ∧ record.Alike found) ∨
    ∃ fault, recordOf (.object members) = .error fault ∧
      recordOf (.object others) = .error fault := by
  have faults : fieldFaults (Json.member? · members) = fieldFaults (Json.member? · others) :=
    fieldFaults_congr same
  rcases fields_cases members with some | ⟨record, makes⟩
  · refine .inr ⟨_, recordOf_of_faults some, ?_⟩
    rw [faults] at some ⊢
    exact recordOf_of_faults some
  · obtain ⟨found, alsoMakes, alike⟩ := makes.alike same
    rw [recordOf_of_makes makes, recordOf_of_makes alsoMakes, ← alike.fault?_eq]
    cases record.fault? with
    | none => exact .inl ⟨record, found, rfl, rfl, alike⟩
    | some fault => exact .inr ⟨fault, rfl, rfl⟩

/-- A fault of an object is worded in the same way on every line. -/
theorem message_congr {fault : LineFault} (found : recordOf (.object members) = .error fault)
    (line other : List Char) : fault.message line = fault.message other := by
  cases fault with
  | notJson failure =>
      rcases fields_cases members with some | ⟨record, makes⟩
      · cases (recordOf_of_faults some).symm.trans found
      · rw [recordOf_of_makes makes] at found
        rcases record.fault?_cases with ⟨_, _, _, _, _, _, same⟩ | ⟨-, same⟩
        · rw [same] at found
          cases found
        · rw [same] at found
          split at found <;> cases found
  | _ => rfl

end Objects

/-! ## Lines -/

/-- What is decoded of a line that is an object. -/
theorem decodeText_of_object {limits : Limits} {line : List Char} {members : List (String × Json)}
    (isJson : DocumentText limits line (.object members)) :
    decodeText limits (.ofText line) =
      (recordOf (.object members)).mapError fun fault => ⟨.ofText line, fault.message line⟩ := by
  rw [decodeText_ofText, readRecordWithin_of_object isJson]

/-- The outcomes of two lines are the same: records that are alike, or the same reason. -/
inductive SameOutcome : Except Refusal Record → Except Refusal Record → Prop where
  | record {left right : Record} (alike : left.Alike right) : SameOutcome (.ok left) (.ok right)
  | refusal {left right : Refusal} (same : left.reason = right.reason) :
      SameOutcome (.error left) (.error right)

/-- What a line that is a JSON object is decoded to depends on the values of its fields alone: the
last ones that are written under their names. If two lines have the same values there they are
decoded to the same record or for the same reason to none, and if the values differ in the order of
members only, so do the records. The faults of fields come in the order of the fields, whatever
their order on the line. So it is for every release of the reader, on the lines that it reads. -/
theorem decodeText_depends_on_fields {limits : Limits} {line other : List Char}
    {pairs others : List (String × Json)}
    (isJson : DocumentText limits line (.object (Json.membersOf pairs)))
    (alsoJson : DocumentText limits other (.object (Json.membersOf others))) :
    ((∀ name ∈ fieldNames, Json.lastMember? name pairs = Json.lastMember? name others) →
      (decodeText limits (.ofText line)).mapError Refusal.reason =
        (decodeText limits (.ofText other)).mapError Refusal.reason) ∧
    ((∀ name ∈ fieldNames,
        Option.Rel Alike (Json.lastMember? name pairs) (Json.lastMember? name others)) →
      SameOutcome (decodeText limits (.ofText line)) (decodeText limits (.ofText other))) ∧
    let faults := fieldNames.flatMap fun name => faultsAt name (Json.lastMember? name pairs)
    faults ≠ [] → decodeText limits (.ofText line) =
      .error ⟨.ofText line, joinedMessages (faults.map FieldFault.message)⟩ := by
  have decoded := decodeText_of_object isJson
  have alsoDecoded := decodeText_of_object alsoJson
  simp only [← Json.member?_membersOf]
  refine ⟨?same, ?alike, ?faults⟩
  case same =>
    intro same
    rw [decoded, alsoDecoded, ← recordOf_congr same]
    cases found : recordOf (.object (Json.membersOf pairs)) with
    | ok record => rfl
    | error fault => simp only [mapError_error, message_congr found line other]
  case alike =>
    intro same
    rw [decoded, alsoDecoded]
    rcases recordOf_alike same with
      ⟨record, found, makes, alsoMakes, alike⟩ | ⟨fault, fails, alsoFails⟩
    · rw [makes, alsoMakes]
      exact .record alike
    · rw [fails, alsoFails]
      exact .refusal (message_congr fails line other)
  case faults =>
    intro some
    rw [← fieldFaults_eq_flatMap] at some ⊢
    rw [decoded, recordOf_of_faults some]
    rfl

/-- The member that makes a text of plain characters the kind of a record. -/
def kindMember (kind : List Char) : Member :=
  textMember "type".toList kind

/-- What the member with the kind stands for. -/
@[simp] theorem pair_kindMember (kind : List Char) :
    (kindMember kind).pair = ("type", .str (String.ofList kind)) := by
  simp [kindMember]

/-- The kind is written as a member. -/
theorem memberText_kind {limits : Limits} (room : 1 ≤ limits.depth) {kind : List Char}
    (plain : StringText kind kind) : MemberText limits 1 (kindMember kind) :=
  memberText_text (stringText_self (by decide)) room plain

/-- The member that gives a truth value for lines. -/
def linesMember : Member :=
  plainMember "line".toList "true".toList (.bool true)

/-- What the member with a wrong line stands for. -/
@[simp] theorem pair_linesMember : linesMember.pair = ("line", .bool true) := by
  simp [linesMember]

/-- The wrong line is written as a member. -/
theorem memberText_lines {limits : Limits} (room : 1 ≤ limits.depth) :
    MemberText limits 1 linesMember :=
  memberText_plain (stringText_self (by decide)) (.name room (by simp [names]))

/-- A member that no record knows: lists within lists. -/
def unknownMember (depth : Nat) : Member :=
  plainMember ['x'] (nested depth) (nestedValue depth)

/-- What the member with an unknown key stands for. -/
@[simp] theorem pair_unknownMember (depth : Nat) :
    (unknownMember depth).pair = ("x", nestedValue depth) := rfl

/-- The nested lists under an unknown key are written as a member, where they are not too deep. -/
theorem memberText_unknown {limits : Limits} {depth : Nat} (room : 1 + depth ≤ limits.depth) :
    MemberText limits 1 (unknownMember depth) :=
  memberText_plain (stringText_self (by decide)) (valueText_nested room)

/-- Members in another order, an unknown one and a kind that is written twice change nothing. -/
theorem decodeText_depends_on_fields_reordered :
    let plain := [kindMember ['a'], linesMember]
    let adorned := [linesMember, unknownMember 3, kindMember ['b'], kindMember ['a']]
    DocumentText .ofReader (objectText plain) (.object (Json.membersOf (plain.map Member.pair))) ∧
    DocumentText .ofReader (objectText adorned)
      (.object (Json.membersOf (adorned.map Member.pair))) ∧
    (decodeLine (objectText plain)).mapError Refusal.reason =
      (decodeLine (objectText adorned)).mapError Refusal.reason ∧
    decodeLine (objectText plain) =
      .error ⟨.ofText (objectText plain), "Input should be a valid array"⟩ := by
  intro plain adorned
  have kinds (kind : List Char) (text : StringText kind kind) :
      MemberText .ofReader 1 (kindMember kind) := memberText_kind (by decide) text
  have lines : MemberText .ofReader 1 linesMember := memberText_lines (by decide)
  have unknown : MemberText .ofReader 1 (unknownMember 3) := memberText_unknown (by decide)
  have isJson := documentText_objectText (List.cons_ne_nil _ _)
    (show ∀ member ∈ plain, MemberText .ofReader 1 member by
      simpa [plain] using ⟨kinds ['a'] (stringText_self (by decide)), lines⟩)
  have alsoJson := documentText_objectText (List.cons_ne_nil _ _)
    (show ∀ member ∈ adorned, MemberText .ofReader 1 member by
      simpa [adorned] using ⟨lines, unknown, kinds ['b'] (stringText_self (by decide)),
        kinds ['a'] (stringText_self (by decide))⟩)
  have same : ∀ name ∈ fieldNames, Json.lastMember? name (plain.map Member.pair) =
      Json.lastMember? name (adorned.map Member.pair) := by
    simp [fieldNames, Json.lastMember?, Json.lookup_cons, plain, adorned]
  have faults : (fieldNames.flatMap fun name =>
      faultsAt name (Json.lastMember? name (plain.map Member.pair))) = [.notArray] := by
    simp [fieldNames, Json.lastMember?, Json.lookup_cons, plain, faultsAt, requiredText,
      optionalText, optionalList, optionalPair, pair, faultsOf, Except.map]
  have depends := decodeText_depends_on_fields isJson alsoJson
  have refused := depends.2.2 (by rw [faults]; exact List.cons_ne_nil _ _)
  rw [faults] at refused
  exact ⟨isJson, alsoJson, depends.1 same, refused⟩

/-- What is written under an unknown name matters if it is nested too deeply to be read. -/
theorem decodeLine_notices_deep_member :
    let plain := [kindMember ['a']]
    let deep := [unknownMember 200, kindMember ['a']]
    DocumentText ⟨201, none, false⟩ (objectText plain)
      (.object (Json.membersOf (plain.map Member.pair))) ∧
    DocumentText ⟨201, none, false⟩ (objectText deep)
      (.object (Json.membersOf (deep.map Member.pair))) ∧
    (∀ name ∈ fieldNames, Json.lastMember? name (plain.map Member.pair) =
      Json.lastMember? name (deep.map Member.pair)) ∧
    (∃ record, decodeLine (objectText plain) = .ok record) ∧
    ¬ ∃ record, decodeLine (objectText deep) = .ok record := by
  intro plain deep
  have kind {limits : Limits} (room : 1 ≤ limits.depth) : MemberText limits 1 (kindMember ['a']) :=
    memberText_kind room (stringText_self (by decide))
  have unknown :
      MemberText ⟨201, none, false⟩ 1 (unknownMember 200) := memberText_unknown (by decide)
  refine ⟨documentText_objectText (List.cons_ne_nil _ _) ?plain,
    documentText_objectText (List.cons_ne_nil _ _) ?deep, ?same, ?decoded, ?refused⟩
  case plain => exact List.forall_mem_singleton.mpr (kind (by decide))
  case deep =>
    exact List.forall_mem_cons.mpr ⟨unknown, List.forall_mem_singleton.mpr (kind (by decide))⟩
  case same => simp [fieldNames, Json.lastMember?, Json.lookup_cons, plain, deep]
  case decoded =>
    have isJson : DocumentText .ofReader (objectText plain) _ :=
      documentText_objectText (List.cons_ne_nil _ _)
        (List.forall_mem_singleton.mpr (kind (by decide)))
    rw [decodeLine, decodeText_of_object isJson]
    exact ⟨_, rfl⟩
  case refused =>
    rintro ⟨record, found⟩
    have isKey : StringText ['x'] ['x'] := stringText_self (by decide)
    have tooDeep : Limits.ofReader.depth < 1 + 200 := by decide
    obtain ⟨failure, failed⟩ := document_objectText_isRefused isKey tooDeep [kindMember ['a']]
    have unread : document .ofReader (objectText deep) = .error failure := failed
    simp only [decodeLine, decodeText_ofText, readRecordWithin, unread, mapError_error,
      reduceCtorEq] at found

end Protocol

end LintClient
