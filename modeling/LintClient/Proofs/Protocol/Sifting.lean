import LintClient.Proofs.Protocol.Dependence
import LintClient.Proofs.Protocol.Places

/-!
# Sifting places

The lists of places of a variable may hold anything. Their items are looked at one by one: each
place gives its range, and each other item is counted (`sifted_placesOf`). To put an item that is no
place somewhere into such a list leaves what the record says, but for the note about the item
(`findings_withPlaces`), as long as the line with the item can still be read (`Inserts.readRecord`).
-/

namespace LintClient.Protocol

open Json.Line

/-- The ranges of the items that are places, in their order, and the number of the other items. -/
inductive Sifted : List Json → List Range → Nat → Prop where
  | nil : Sifted [] [] 0
  | place {item : Json} {range : Range} {items : List Json} {ranges : List Range} {others : Nat}
      (isPlace : IsPlace item range) (rest : Sifted items ranges others) :
      Sifted (item :: items) (range :: ranges) others
  | other {item : Json} {items : List Json} {ranges : List Range} {others : Nat}
      (isNone : ∀ range, ¬ IsPlace item range) (rest : Sifted items ranges others) :
      Sifted (item :: items) ranges (others + 1)

/-- The record with other items in one of its lists of places. -/
def Record.withPlaces (record : Record) (items : List Json) : PlaceRole → Record
  | .definition => { record with definitions := items }
  | .usage => { record with usage := items }

/-- The second line is the first one with the item put somewhere into a list of places. Nothing else
that counts is different. -/
inductive Inserts (limits : Limits) (role : PlaceRole) (item : Json) :
    List Char → List Char → Prop where
  | item {line longer : List Char} {pairs others : List (String × Json)} {before after : List Json}
      (isJson : DocumentText limits line (.object (Json.membersOf pairs)))
      (alsoJson : DocumentText limits longer (.object (Json.membersOf others)))
      (isList : IsOptionalList (Json.lastMember? role.key pairs) (before ++ after))
      (isLonger : Json.lastMember? role.key others = some (.list (before ++ item :: after)))
      (same : ∀ name ∈ fieldNames, name ≠ role.key →
        Json.lastMember? name others = Json.lastMember? name pairs) :
      Inserts limits role item line longer

/-- An item that is put into a list stays there within wider limits. -/
theorem Inserts.widen {limits wider : Limits} (within : limits.Within wider) {role : PlaceRole}
    {item : Json} {line longer : List Char} (inserts : Inserts limits role item line longer) :
    Inserts wider role item line longer := by
  obtain ⟨isJson, alsoJson, isList, isLonger, same⟩ := inserts
  exact .item (isJson.widen within) (alsoJson.widen within) isList isLonger same

/-! ## Lists of places -/

/-- Items are sifted one part after the other. -/
theorem placesOf_append (role : PlaceRole) (name : String) (first second : List Json) :
    placesOf role name (first ++ second) =
      ((placesOf role name first).1 ++ (placesOf role name second).1,
        (placesOf role name first).2 ++ (placesOf role name second).2) := by
  simp [placesOf]

/-- An item that is a place gives its range. -/
theorem placesOf_cons_of_ok {item : Json} {span : Span} (isPlace : placeOf item = .ok span)
    (role : PlaceRole) (name : String) (items : List Json) :
    placesOf role name (item :: items) =
      (span.toRange :: (placesOf role name items).1, (placesOf role name items).2) := by
  simp [placesOf, isPlace, Except.toOption]

/-- An item that is no place gives a note. -/
theorem placesOf_cons_of_error {item : Json} {fault : PlaceFault}
    (isNone : placeOf item = .error fault) (role : PlaceRole) (name : String) (items : List Json) :
    placesOf role name (item :: items) =
      ((placesOf role name items).1,
        .badPlace role name item fault :: (placesOf role name items).2) := by
  simp [placesOf, isNone, Except.toOption]

/-- An item that is no place has a fault. -/
theorem exists_placeFault {item : Json} (isNone : ∀ range, ¬ IsPlace item range) :
    ∃ fault, placeOf item = .error fault := by
  cases found : placeOf item with
  | ok span => exact absurd (placeOf_eq_ok_iff.mp found) (isNone _)
  | error fault => exact ⟨fault, rfl⟩

/-- A list of places is sifted: what it gives are the ranges of its places, and a note for each
other item. -/
theorem sifted_placesOf (role : PlaceRole) (name : String) (items : List Json) :
    Sifted items (placesOf role name items).1 (placesOf role name items).2.length := by
  induction items with
  | nil => exact .nil
  | cons item items inductionHypothesis =>
      cases found : placeOf item with
      | ok span =>
          rw [placesOf_cons_of_ok found]
          exact .place (placeOf_eq_ok_iff.mp found) inductionHypothesis
      | error fault =>
          rw [placesOf_cons_of_error found]
          refine .other (fun range isPlace => ?_) inductionHypothesis
          have none : rangeOf? item = none := by rw [rangeOf?, found]; rfl
          exact rangeOf?_eq_none_iff.mp none range isPlace

/-- Two lists are sifted one after the other. -/
theorem Sifted.append {first second : List Json} {ranges others : List Range} {bad alsoBad : Nat}
    (sifted : Sifted first ranges bad) (alsoSifted : Sifted second others alsoBad) :
    Sifted (first ++ second) (ranges ++ others) (bad + alsoBad) := by
  induction sifted with
  | nil => simpa using alsoSifted
  | place isPlace _ inductionHypothesis => exact .place isPlace inductionHypothesis
  | @other _ _ _ bad isNone _ inductionHypothesis =>
      rw [Nat.add_right_comm bad 1]
      exact .other isNone inductionHypothesis

/-- An item that is no place adds nothing but a note, wherever it is put. -/
theorem placesOf_insert {item : Json} {fault : PlaceFault} (isNone : placeOf item = .error fault)
    (role : PlaceRole) (name : String) (before after : List Json) :
    ∃ earlier later, (placesOf role name (before ++ after)).2 = earlier ++ later ∧
      placesOf role name (before ++ item :: after) = ((placesOf role name (before ++ after)).1,
        earlier ++ .badPlace role name item fault :: later) := by
  refine ⟨(placesOf role name before).2, (placesOf role name after).2, ?_, ?_⟩
  · rw [placesOf_append]
  · rw [placesOf_append, placesOf_append, placesOf_cons_of_error isNone]

/-! ## Records -/

section Records

variable (record : Record) (items : List Json) (role : PlaceRole)

/-- Other items leave the kind of a record as it is. -/
@[simp] theorem Record.withPlaces_kind : (record.withPlaces items role).kind = record.kind := by
  cases role <;> rfl

/-- A record stays sensible whatever stands in its lists of places. -/
theorem Record.sensible_withPlaces_iff :
    (record.withPlaces items role).Sensible ↔ record.Sensible := by
  rw [← fault?_eq_none_iff, ← fault?_eq_none_iff]
  cases role <;> rfl

end Records

/-- Fields that differ in a list of places make records that differ in it. -/
theorem FieldsMake.withPlaces {field other : String → Option Json} {record : Record}
    (makes : FieldsMake field record) {role : PlaceRole} {items : List Json}
    (isList : other role.key = some (.list items))
    (same : ∀ name ∈ fieldNames, name ≠ role.key → other name = field name) :
    FieldsMake other (record.withPlaces items role) := by
  have given : IsOptionalList (other role.key) items := by
    rw [isList]
    exact .list items
  obtain ⟨kind, error, message, name, comment, usage, definitions, lines, columns⟩ := makes
  simp only [fieldNames, List.mem_cons, List.not_mem_nil, or_false, forall_eq_or_imp,
    forall_eq] at same
  cases role with
  | definition =>
      simp only [PlaceRole.key, ne_eq, String.reduceEq, not_false_eq_true, forall_const,
        not_true_eq_false, IsEmpty.forall_iff, true_and] at same
      constructor
      case definitions => exact given
      all_goals
        simp only [same]
        assumption
  | usage =>
      simp only [PlaceRole.key, ne_eq, String.reduceEq, not_false_eq_true, forall_const,
        not_true_eq_false, IsEmpty.forall_iff, true_and] at same
      constructor
      case usage => exact given
      all_goals
        simp only [same]
        assumption

/-- If an item is put into a list of places, the line is still read, as the same record with the
item in its list. -/
theorem Inserts.readRecord {role : PlaceRole} {item : Json} {line longer : List Char}
    (inserts : Inserts .ofReader role item line longer) {record : Record}
    (isRecord : Protocol.readRecord line = .ok record) :
    ∃ before after, record.places role = before ++ after ∧
      Protocol.readRecord longer = .ok (record.withPlaces (before ++ item :: after) role) := by
  obtain ⟨isJson, alsoJson, isList, isLonger, same⟩ := inserts
  next pairs others before after =>
  rw [readRecord_of_object isJson, recordOf_object_eq_ok_iff] at isRecord
  simp only [Json.member?_membersOf] at isRecord
  obtain ⟨makes, sensible⟩ := isRecord
  refine ⟨before, after, ?places, ?read⟩
  case places =>
    have isPlaces : IsOptionalList (Json.lastMember? role.key pairs) (record.places role) := by
      cases role with
      | definition => exact makes.definitions
      | usage => exact makes.usage
    rw [← optionalList_eq_ok_iff] at isPlaces isList
    exact Except.ok.inj (isPlaces.symm.trans isList)
  case read =>
    rw [readRecord_of_object alsoJson, recordOf_object_eq_ok_iff]
    simp only [Json.member?_membersOf]
    exact ⟨makes.withPlaces isLonger same, (record.sensible_withPlaces_iff _ role).mpr sensible⟩

/-- An item that is no place adds nothing to what a variable record says but a bad place and a note
about it. -/
theorem Record.findings_withPlaces {record : Record} (isVariable : record.kind = "variable")
    {role : PlaceRole} {before after : List Json} (places : record.places role = before ++ after)
    {item : Json} {fault : PlaceFault} (isNone : placeOf item = .error fault) :
    ∃ earlier later, record.findings.notes = earlier ++ later ∧
      (record.withPlaces (before ++ item :: after) role).findings =
        ⟨record.findings.entries, record.findings.tally.add ⟨0, 0, 0, 1⟩,
          earlier ++ .badPlace role (record.name.getD "") item fault :: later⟩ := by
  have stillVariable := (record.withPlaces_kind (before ++ item :: after) role).trans isVariable
  rw [findings_of_variable isVariable, findings_of_variable stillVariable]
  obtain ⟨earlier, later, notes, made⟩ :=
    placesOf_insert isNone role (record.name.getD "") before after
  cases role with
  | definition =>
      change record.definitions = before ++ after at places
      refine ⟨earlier, later ++ (placesOf .usage (record.name.getD "") record.usage).2, ?_, ?_⟩
      · simp [placeNotes, places, notes]
      · simp [withPlaces, placeNotes, symbol, places, made, notes, Tally.add]
        omega
  | usage =>
      change record.usage = before ++ after at places
      refine ⟨(placesOf .definition (record.name.getD "") record.definitions).2 ++ earlier, later,
        ?_, ?_⟩
      · simp [placeNotes, places, notes]
      · simp [withPlaces, placeNotes, symbol, places, made, notes, Tally.add]
        omega

/-! ### Lists among the uses -/

/-- The members of a variable whose uses are lists within lists. -/
def usageMembers (depth : Nat) : List Member :=
  variableMembers .usage (nested depth) (nestedItems depth)

/-- The line is a document where the nested lists in it are not too deep. -/
theorem documentText_usageMembers {limits : Limits} {depth : Nat}
    (room : 1 + depth ≤ limits.depth) :
    DocumentText limits (objectText (usageMembers depth))
      (.object (Json.membersOf ((usageMembers depth).map Member.pair))) :=
  documentText_variableMembers (by omega) (nestedValue_eq_list depth ▸ valueText_nested room)

/-- Lists within lists are put among no uses. -/
theorem inserts_usageMembers {limits : Limits} {depth : Nat} (room : 2 + depth ≤ limits.depth) :
    Inserts limits .usage (nestedValue depth) (objectText (usageMembers 0))
      (objectText (usageMembers (depth + 1))) := by
  have shallow : 1 + 0 ≤ limits.depth := by omega
  have deep : 1 + (depth + 1) ≤ limits.depth := by omega
  refine @Inserts.item _ _ _ _ _ _ _ [] [] (documentText_usageMembers shallow)
    (documentText_usageMembers deep) ?list ?longer ?same
  case list => exact .list []
  case longer =>
    rw [usageMembers, lastMember?_variableMembers]
    rfl
  case same =>
    intro name _ notUsage
    simp only [usageMembers, lastMember?_variableMembers, if_neg notUsage]

/-- A list is no place. -/
theorem not_isPlace_nestedValue (depth : Nat) (range : Range) :
    ¬ IsPlace (nestedValue depth) range := by
  rintro ⟨lines, columns, gives, -⟩
  cases depth <;> cases gives

/-- Lists within lists are read among the uses if they can be read at all. -/
theorem readRecord_usageMembers {depth : Nat} (room : 1 + depth ≤ Limits.ofReader.depth) :
    readRecord (objectText (usageMembers depth)) = .ok (variableWith .usage (nestedItems depth)) :=
  readRecord_variableMembers (nestedValue_eq_list depth ▸ valueText_nested room)

/-- A line is malformed if the lists among its uses are nested too deeply. -/
theorem readLine_usageMembers {depth : Nat} (deep : Limits.ofReader.depth < 1 + depth) : ∃ note,
    readLine (objectText (usageMembers depth)) = ⟨[], ⟨0, 0, 1, 0⟩, [note]⟩ := by
  have isKey : StringText "usage".toList "usage".toList := stringText_self (by decide)
  obtain ⟨failure, failed⟩ := document_objectText_isRefused isKey deep _
  rw [nestedValue_eq_list] at failed
  have unread : document .ofReader (objectText (usageMembers depth)) = .error failure := failed
  simp only [readLine, Protocol.readRecord, readRecordWithin, unread]
  exact ⟨_, rfl⟩

end LintClient.Protocol
