import LintClient.Proofs.Protocol.Accounting

/-!
# Places

What lines and columns locate a range, and which items of a list of places are places, said without
the checks (`Locates`, `IsPlace`). The check of an item lets exactly the places pass
(`placeOf_eq_ok_iff`). Of a list of places a variable keeps the ranges of those items that are
places (`Record.ranges_symbol`), each in its turn.
-/

namespace LintClient

namespace Protocol

/-- The value is a list of two values that count as the integers. -/
inductive IsPair : Json → Int × Int → Prop where
  | pair {first second : Json} {numbers : Int × Int} (isFirst : CountsAs first numbers.1)
      (isSecond : CountsAs second numbers.2) : IsPair (.list [first, second]) numbers

/-- Lines and columns locate the range: they are pairs of integers that denote it. -/
inductive Locates : Json → Json → Range → Prop where
  | span {lines columns : Json} {span : Span} (isLines : IsPair lines span.lines)
      (isColumns : IsPair columns span.columns) (denotes : span.Denotes) :
      Locates lines columns span.toRange

/-- The value is an object with these lines and columns. -/
inductive Gives : Json → Json → Json → Prop where
  | object {members : List (String × Json)} {lines columns : Json}
      (givesLines : Json.member? "line" members = some lines)
      (givesColumns : Json.member? "column" members = some columns) :
      Gives (.object members) lines columns

/-- The value is the place of the range. -/
def IsPlace (item : Json) (range : Range) : Prop :=
  ∃ lines columns, Gives item lines columns ∧ Locates lines columns range

/-- A pair is accepted exactly if it is one. -/
theorem pair_eq_ok_iff_isPair {otherKind : FieldFault} {value : Json} {numbers : Int × Int} :
    pair otherKind value = .ok numbers ↔ IsPair value numbers := by
  rw [pair_eq_ok_iff]
  constructor
  · rintro ⟨first, second, rfl, isFirst, isSecond⟩
    exact .pair isFirst isSecond
  · rintro ⟨isFirst, isSecond⟩
    exact ⟨_, _, rfl, isFirst, isSecond⟩

/-- A required pair has to be there. -/
theorem requiredPair_eq_ok_iff {otherKind : FieldFault} {value : Option Json}
    {numbers : Int × Int} :
    requiredPair otherKind value = .ok numbers ↔
      ∃ there, value = some there ∧ IsPair there numbers := by
  cases value with
  | none => simp [requiredPair]
  | some there => simp [requiredPair, pair_eq_ok_iff_isPair]

/-- Ranges tell spans apart. -/
theorem Span.toRange_injective : Function.Injective toRange := by
  intro left right same
  rw [← ofRange_toRange left, same, ofRange_toRange]

/-- The check of an item lets exactly the places pass. -/
theorem placeOf_eq_ok_iff {item : Json} {span : Span} :
    placeOf item = .ok span ↔ IsPlace item span.toRange := by
  constructor
  · intro found
    obtain ⟨members, rfl, isLines, isColumns, sound⟩ := pairs_of_placeOf found
    obtain ⟨linesJson, givesLines, isLines⟩ := requiredPair_eq_ok_iff.mp isLines
    obtain ⟨columnsJson, givesColumns, isColumns⟩ := requiredPair_eq_ok_iff.mp isColumns
    exact ⟨linesJson, columnsJson, .object givesLines givesColumns,
      .span isLines isColumns (Span.fault?_eq_none_iff.mp sound)⟩
  · rintro ⟨lines, columns, ⟨givesLines, givesColumns⟩, locates⟩
    generalize same : span.toRange = range at locates
    obtain ⟨isLines, isColumns, denotes⟩ := locates
    obtain rfl := Span.toRange_injective same
    have linesOk : requiredPair .notPair (some lines) = .ok span.lines :=
      requiredPair_eq_ok_iff.mpr ⟨lines, rfl, isLines⟩
    have columnsOk : requiredPair .notPair (some columns) = .ok span.columns :=
      requiredPair_eq_ok_iff.mpr ⟨columns, rfl, isColumns⟩
    simp only [placeOf, givesLines, givesColumns, linesOk, columnsOk, Except.map, Checked.apply,
      Span.fault?_eq_none_iff.mpr denotes]

/-- The range of an item of a list of places, if it is a place. -/
def rangeOf? (item : Json) : Option Range :=
  (placeOf item).toOption.map Span.toRange

/-- An item has a range exactly if it is a place, and then that of the place. -/
theorem rangeOf?_eq_some_iff {item : Json} {range : Range} :
    rangeOf? item = some range ↔ IsPlace item range := by
  rw [rangeOf?, Option.map_eq_some_iff]
  simp only [toOption_eq_some, placeOf_eq_ok_iff]
  constructor
  · rintro ⟨span, isPlace, rfl⟩
    exact isPlace
  · rintro ⟨lines, columns, gives, isLines, isColumns, denotes⟩
    exact ⟨_, ⟨lines, columns, gives, .span isLines isColumns denotes⟩, rfl⟩

/-- An item has no range exactly if it is no place. -/
theorem rangeOf?_eq_none_iff {item : Json} :
    rangeOf? item = none ↔ ∀ range, ¬ IsPlace item range := by
  simp only [Option.eq_none_iff_forall_ne_some, ne_eq, rangeOf?_eq_some_iff]

/-! ## Lists of places -/

/-- The key under which a record gives places in a role. -/
def PlaceRole.key : PlaceRole → String
  | .definition => "definitions"
  | .usage => "usage"

/-- The items of a record that are given in a role. -/
def Record.places (record : Record) : PlaceRole → List Json
  | .definition => record.definitions
  | .usage => record.usage

end Protocol

/-- The ranges of a variable in a role. -/
def Variable.ranges (entry : Variable) : Protocol.PlaceRole → List Range
  | .definition => entry.definitions
  | .usage => entry.usage

namespace Protocol

/-- The ranges of a list of places are those of its items that are places, each in its turn. -/
theorem ranges_placesOf (role : PlaceRole) (name : String) (items : List Json) :
    (placesOf role name items).1 = items.filterMap rangeOf? := by
  rw [placesOf, List.filterMap_map]
  rfl

/-- A variable keeps the ranges of those items that are places, each in its turn. -/
theorem Record.ranges_symbol (record : Record) (role : PlaceRole) :
    record.symbol.ranges role = (record.places role).filterMap rangeOf? := by
  cases role with
  | definition => exact ranges_placesOf .definition (record.name.getD "") record.definitions
  | usage => exact ranges_placesOf .usage (record.name.getD "") record.usage

/-! ## Variables with one list of places -/

section Making

open Json.Line

variable (role : PlaceRole) (text : List Char) (items : List Json)

/-- The members of a variable with the text of a list of places. -/
def variableMembers : List Member :=
  [plainMember role.key.toList text (.list items), textMember "type".toList "variable".toList,
    textMember "variable".toList "_x".toList]

/-- The record of the variable. -/
def variableWith : Record where
  kind := "variable"
  error := none
  message := none
  name := some "_x"
  comment := none
  usage := if role = .usage then items else []
  definitions := if role = .definition then items else []
  lines := none
  columns := none

/-- The variable has the items in that role. -/
theorem places_variableWith : (variableWith role items).places role = items := by
  cases role <;> rfl

/-- What the object of the variable gives for each name. -/
theorem lastMember?_variableMembers (name : String) :
    Json.lastMember? name ((variableMembers role text items).map Member.pair) =
      if name = "variable" then some (.str "_x")
      else if name = "type" then some (.str "variable")
      else if name = role.key then some (.list items)
      else none := by
  simp [Json.lastMember?, Json.lookup_cons, variableMembers]

variable {role text items}

/-- The members of the variable are written as a whole document, if their list is written. -/
theorem documentText_variableMembers {limits : Limits} (room : 1 ≤ limits.depth)
    (isList : ValueText limits 1 text (.list items)) :
    DocumentText limits (objectText (variableMembers role text items))
      (.object (Json.membersOf ((variableMembers role text items).map Member.pair))) := by
  have isKey : StringText role.key.toList role.key.toList := by
    cases role <;> exact stringText_self (by decide)
  refine documentText_objectText (List.cons_ne_nil _ _) ?_
  simp only [variableMembers, List.forall_mem_cons, List.not_mem_nil, false_implies, implies_true,
    and_true]
  exact ⟨memberText_plain isKey isList,
    memberText_text (stringText_self (by decide)) room (stringText_self (by decide)),
    memberText_text (stringText_self (by decide)) room (stringText_self (by decide))⟩

/-- The text of a variable with one list of places is read as its record. -/
theorem readRecord_variableMembers (isList : ValueText .ofReader 1 text (.list items)) :
    readRecord (objectText (variableMembers role text items)) = .ok (variableWith role items) := by
  rw [readRecord_of_object (documentText_variableMembers (by decide) isList),
    recordOf_object_eq_ok_iff]
  refine ⟨?_, nofun, fun _ => ⟨"_x", rfl, by decide⟩⟩
  simp only [Json.member?_membersOf, lastMember?_variableMembers]
  cases role with
  | definition =>
      exact ⟨rfl, .absent, .absent, .text "_x", .absent, .absent, .list items, .absent, .absent⟩
  | usage =>
      exact ⟨rfl, .absent, .absent, .text "_x", .absent, .list items, .absent, .absent, .absent⟩

end Making

end Protocol

end LintClient
